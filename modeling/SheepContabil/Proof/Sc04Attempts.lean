import SheepContabil.Conc.Logic
import SheepContabil.Proof.Sc04Classifier
import SheepContabil.Proof.Sc04Policy
import SheepContabil.Proof.Sc20Tables
import SheepContabil.Py.Rows
import SheepContabil.Spec.Sc04Attempts

/-!
# SC-04: what a review and a decision refer to

A resumption of a run leaves its old worker alive, with the same token. It closes the attempt of
that worker, which may complete it all the same.

* `ClassificationKept`: the invariant. The attempts of a document are numbered, and a review or a
  decision refers to a finished attempt of its own document, whose outcome is its reason.
* `SC04Change`: everything one move does to the attempts and to what refers to them.
* `run_attempts`: the invariant holds after every run.
* `run_frozen`: **what a review or a decision refers to never changes again.**
-/

namespace SheepContabil

open Conc

/-- The outcome of the attempt behind a review. -/
def DocumentReviewReason.attemptStatus : DocumentReviewReason → ClassificationAttemptStatus
  | .invalidResponse => .invalidResponse
  | .classifierUnavailable => .failed
  | _ => .succeeded

/-- What the validation has checked of a prediction. -/
structure ClassificationPrediction.Valid (p : ClassificationPrediction) : Prop where
  typeConfidence : 0 ≤ p.typeConfidence ∧ p.typeConfidence ≤ 1
  clientConfidence : 0 ≤ p.clientConfidence ∧ p.clientConfidence ≤ 1
  evidence : 1 ≤ p.evidence.length ∧ p.evidence.length ≤ 3
  notBlank : "" ∉ p.evidence

section Validation

theorem confidence_range {x : PyObject} {q : ℚ} (h : confidence x = .ok q) : 0 ≤ q ∧ q ≤ 1 := by
  have hrange : ∀ q', confidence.inRange q' = .ok q → 0 ≤ q ∧ q ≤ 1 := by
    intro q' hq
    unfold confidence.inRange at hq
    split at hq
    · next hle => exact Except.ok.inj hq ▸ hle
    · cases hq
  cases x with
  | int n =>
    rw [confidence] at h
    split at h
    · cases h
    · exact hrange _ h
  | float q' =>
    cases q' with
    | none => cases h
    | some q' => exact hrange _ h
  | _ => cases h

/-- **What `_validate_response` accepts is valid.** -/
theorem validateResponse_valid {value : PyObject} {codes : List String}
    {p : ClassificationPrediction} (h : validateResponse value codes = .ok p) : p.Valid := by
  cases value with
  | mapping kvs =>
    rw [validateResponse_eq] at h
    split at h
    · cases h
    · obtain ⟨t, -, h⟩ := Py.bind_eq_ok.1 h
      obtain ⟨q, hq, h⟩ := Py.bind_eq_ok.1 h
      obtain ⟨q', hq', h⟩ := Py.bind_eq_ok.1 h
      obtain ⟨c, -, h⟩ := Py.bind_eq_ok.1 h
      obtain ⟨b, -, h⟩ := Py.bind_eq_ok.1 h
      obtain ⟨e, he, h⟩ := Py.bind_eq_ok.1 h
      obtain rfl := Except.ok.inj h
      suffices hlist : (1 ≤ e.length ∧ e.length ≤ 3) ∧ "" ∉ e from
        ⟨confidence_range hq, confidence_range hq', hlist.1, hlist.2⟩
      unfold readEvidence at he
      split at he
      · next items heq =>
        split at he
        · cases he
        · next hl =>
          obtain ⟨texts, rfl, rfl, hblank⟩ := normalizedEvidence_eq he
          refine ⟨?_, hblank⟩
          rw [List.length_map]
          cases texts with
          | nil => simp at hl
          | cons x rest => simpa using hl
      · cases he
  | _ => cases h

/-- **What the classifier answers is valid**, whatever the provider does. -/
theorem classify_valid {configured : Bool} {loads : String → Option PyObject}
    {codes : List String} {outcome : ProviderOutcome} {p : ProviderPrediction}
    (h : classify configured loads codes outcome = .ok p) : p.validated.Valid := by
  unfold classify at h
  split at h
  · cases h
  · unfold classifyOutcome at h
    split at h
    · cases h
    · cases h
    · cases h
    · cases h
    · split at h <;> cases h
    · cases h
    · cases h
    · split at h
      · cases h
      · split at h
        · cases h
        · next decoded hdecoded =>
          obtain ⟨v, hv, heq⟩ := Py.bind_eq_ok.1 h
          obtain rfl := Except.ok.inj heq
          unfold validated at hv
          cases hresponse : validateResponse decoded codes with
          | error e => rw [hresponse] at hv; cases hv
          | ok v' =>
            rw [hresponse] at hv
            obtain rfl := Except.ok.inj hv
            exact validateResponse_valid hresponse

end Validation

/-- The review and the decision of a document, if it is there. -/
def SC04State.refs (s : SC04State) (d : DocumentId) :
    Option (Option DocumentReview × Option AttemptDecision) :=
  (s.documents[d]?).map fun x => (x.review, x.decision)

/-- The attempt is of the document and ended so, and no process will write it. -/
structure SC04State.Ended (s : SC04State) (d : DocumentId) (i : AttemptId)
    (status : ClassificationAttemptStatus) (a : ClassificationAttempt) : Prop where
  row : s.attempts[i]? = some a
  document : a.document = d
  status : a.status = status
  owner : s.owners i = none

/-- The decision that a worker made: what a succeeded attempt predicted, and the policy accepts. -/
structure Accepted (threshold : ℚ) (decision : AttemptDecision) (a : ClassificationAttempt) : Prop where
  predicted : ∃ p, a.prediction = some p ∧ decision.documentType = p.validated.documentType ∧
    p.validated.isAmbiguous = false ∧ threshold ≤ p.validated.typeConfidence
  type : decision.documentType ≠ .unknown ∧ decision.documentType ≠ .other

/-- What a review and a decision of a document say. -/
structure RefsKept (threshold : ℚ) (s : SC04State) (d : DocumentId)
    (refs : Option DocumentReview × Option AttemptDecision) : Prop where
  review : ∀ r, refs.1 = some r →
    ∃ a, s.Ended d r.suggestedAttempt r.reason.attemptStatus a
  automatic : ∀ x, refs.2 = some x → x.origin = .automatic →
    ∃ a, s.Ended d x.classificationAttempt .succeeded a ∧ Accepted threshold x a
  human : ∀ x, refs.2 = some x → x.origin = .humanReview →
    ∃ r, refs.1 = some r ∧ r.status = .completed ∧ x.classificationAttempt = r.suggestedAttempt

/-- A row of the attempts, with its check constraints. -/
structure ClassificationAttempt.Consistent (a : ClassificationAttempt) : Prop where
  finished : a.finishedAt.isSome = true ↔ a.status ≠ .processing
  predicted : a.prediction.isSome = true ↔ a.status = .succeeded
  valid : ∀ p, a.prediction = some p → p.validated.Valid

/-- **The invariant.** -/
structure ClassificationKept (threshold : ℚ) (s : SC04State) : Prop where
  numbered : ∀ d, (s.attemptsOf d).map (·.sequence) = List.range' 1 (s.attemptsOf d).length
  rows : ∀ i a, s.attempts[i]? = some a →
    a.Consistent ∧ (s.owners i = none → a.status ≠ .processing)
  fresh : ∀ i, s.attempts.length ≤ i → s.owners i = none
  refs : ∀ d x, s.refs d = some x → RefsKept threshold s d x

/-- The process may still write the attempt, which is of the document and has no prediction. -/
def SC04State.Owns (s : SC04State) (pid : ℕ) (d : DocumentId) (i : AttemptId) : Prop :=
  s.owners i = some pid ∧ ∃ a, s.attempts[i]? = some a ∧ a.document = d ∧ a.prediction = none

/-- What a worker knows when it performs an action. -/
def sc04Pre (pid : ℕ) : SC04Label → SC04State → Prop
  | .recordClassifierFailure d _ a _, s => s.Owns pid d a
  | .recordUnexpectedFailure _ a, s => ∃ d, s.Owns pid d a
  | .decide_ d _ a prediction _ _, s => s.Owns pid d a ∧ prediction.validated.Valid
  | _, _ => True

/-- What a worker relies on: nobody else writes its attempt for good. -/
def sc04Rely (pid : ℕ) (s s' : SC04State) : Prop := ∀ d i, s.Owns pid d i → s'.Owns pid d i

section Changes

/-- The reviews and the decisions stay, and a new document has none. -/
def SameRefs (s s' : SC04State) : Prop :=
  ∀ d, s'.refs d = s.refs d ∨ s.refs d = none ∧ s'.refs d = some (none, none)

variable {platform : SC04Platform} {s s' : SC04State}

/-- **Everything one move does** to the attempts and to what refers to them. -/
inductive SC04Change (platform : SC04Platform) (s : SC04State) :
    Option (ℕ × SC04Label) → SC04State → Prop where
  | same (who) {s'} (attempts : s'.attempts = s.attempts) (owners : s'.owners = s.owners)
      (refs : SameRefs s s') : SC04Change platform s who s'
  | interrupted (who) {s'} (message now)
      (attempts : s'.attempts = s.attempts.map (·.interrupt message now))
      (owners : s'.owners = s.owners) (refs : SameRefs s s') : SC04Change platform s who s'
  | created (pid d taskId text) :
      SC04Change platform s (some (pid, .createAttempt d taskId text)) (s.createAttempt pid d text).2
  | classifierFailed (pid d taskId a e now) :
      SC04Change platform s (some (pid, .recordClassifierFailure d taskId a e))
        (s.recordClassifierFailure d a e now)
  | unexpectedFailed (pid taskId a now) :
      SC04Change platform s (some (pid, .recordUnexpectedFailure taskId a))
        (s.recordUnexpectedFailure a now)
  | decided (pid d taskId a prediction exact_ ambiguous now) {b s'}
      (h : s.decide_ platform d a prediction exact_ ambiguous now = (.ok b, s')) :
      SC04Change platform s (some (pid, .decide_ d taskId a prediction exact_ ambiguous)) s'
  | resolved (d documentType client) :
      SC04Change platform s none (s.resolveReview d documentType client)

theorem sameRefs_refl (s : SC04State) : SameRefs s s := fun _ => .inl rfl

theorem refs_setDocument (d : DocumentId) (f : SC04Document → SC04Document) (d' : DocumentId) :
    (s.setDocument d f).refs d' =
      (s.documents[d']?).map fun x => if d = d' then ((f x).review, (f x).decision)
        else (x.review, x.decision) := by
  rw [SC04State.refs, SC04State.setDocument, List.getElem?_modify, Option.map_eq_map, Option.map_map]
  congr 1
  funext x
  rw [Function.comp_apply]
  split <;> rfl

/-- An update of other columns of a document. -/
theorem sameRefs_setDocument (d : DocumentId) {f : SC04Document → SC04Document}
    (hf : ∀ x, (f x).review = x.review ∧ (f x).decision = x.decision) :
    SameRefs s (s.setDocument d f) := by
  intro d'
  rw [refs_setDocument]
  refine .inl (congrArg (Option.map · _) (funext fun x => ?_))
  rw [(hf x).1, (hf x).2, ite_self]

/-- An update of other columns of every document. -/
theorem sameRefs_map {f : SC04Document → SC04Document}
    (hf : ∀ x, (f x).review = x.review ∧ (f x).decision = x.decision)
    (hdocuments : s'.documents = s.documents.map f) : SameRefs s s' := by
  intro d
  rw [SC04State.refs, hdocuments, List.getElem?_map, Option.map_map]
  refine .inl (congrArg (Option.map · _) (funext fun x => ?_))
  rw [Function.comp_apply, (hf x).1, (hf x).2]

theorem reset_refs (x : SC04Document) :
    x.reset.review = x.review ∧ x.reset.decision = x.decision := by
  unfold SC04Document.reset
  split <;> exact ⟨rfl, rfl⟩

theorem close_refs (message : String) (x : SC04Document) :
    (x.close message).review = x.review ∧ (x.close message).decision = x.decision := by
  unfold SC04Document.close
  split <;> exact ⟨rfl, rfl⟩

theorem executeRoute_change (who) (d : DocumentId) (message : String) (outcome : CopyOutcome) :
    SC04Change platform s who (s.executeRoute d message outcome).2 := by
  cases outcome with
  | copied => exact .same who rfl rfl (sameRefs_setDocument d fun _ => ⟨rfl, rfl⟩)
  | storageError => exact .same who rfl rfl (sameRefs_setDocument d fun _ => ⟨rfl, rfl⟩)
  | raised => exact .same who rfl rfl (sameRefs_refl s)

/-- **Every event is one of the changes.** -/
theorem event_sc04Change (e : SC04Event) :
    SC04Change platform s none (s.handle platform.settings e) := by
  cases e with
  | saveRun run => exact .same none rfl rfl (sameRefs_refl s)
  | saveClients clients => exact .same none rfl rfl (sameRefs_refl s)
  | ingestDocument =>
    refine .same none rfl rfl fun d => ?_
    simp only [SC04State.handle, SC04State.refs]
    rcases Nat.lt_trichotomy d s.documents.length with hd | rfl | hd
    · rw [List.getElem?_append_left hd]
      exact .inl rfl
    · refine .inr ⟨?_, ?_⟩ <;> simp
    · rw [List.getElem?_eq_none (by simp; omega), List.getElem?_eq_none (by omega)]
      exact .inl rfl
  | resolveReview d documentType client => exact .resolved d documentType client
  | executeRoute d outcome message => exact executeRoute_change none d message outcome
  | reconcileOne hasNewItems fresh now =>
    simp only [SC04State.handle, SC04State.reconcileOne]
    split
    · split
      · exact .interrupted none _ now rfl rfl (sameRefs_map reset_refs rfl)
      · exact .same none rfl rfl (sameRefs_refl s)
    · split
      · exact .same none rfl rfl (sameRefs_refl s)
      · exact .interrupted none _ now rfl rfl (sameRefs_map (close_refs _) rfl)
    · exact .same none rfl rfl (sameRefs_refl s)

/-- A transaction behind the guard of a delivery: refused, or its body. -/
theorem locked_change {α : Type} {who : Option (ℕ × SC04Label)} {taskId : Option TaskId}
    {body : Except SC04Exception α × SC04State} (h : SC04Change platform s who body.2) :
    SC04Change platform s who (s.locked taskId body).2 := by
  unfold SC04State.locked
  split
  · exact h
  · exact .same who rfl rfl (sameRefs_refl s)

theorem startRun_sc04Change (who) (t : SuppliedTaskId) (b : Bool) (now : ℕ) :
    SC04Change platform s who (s.startRun platform t b now).2 := by
  unfold SC04State.startRun
  split
  · exact .same who rfl rfl (sameRefs_refl s)
  · exact .interrupted who _ now rfl rfl (sameRefs_map (close_refs _) rfl)
  · exact .interrupted who _ now rfl rfl (sameRefs_map reset_refs rfl)
  · exact .same who rfl rfl (sameRefs_refl s)

/-- **Every action is one of the changes.** -/
theorem sem_sc04Change (pid : ℕ) (l : SC04Label) (i : SC04Fate) :
    SC04Change platform s (some (pid, l)) (SC04State.sem platform pid l i s).2 := by
  unfold SC04State.sem
  split
  · exact .same _ rfl rfl (sameRefs_refl s)
  cases l with
  | startRun t b => exact startRun_sc04Change _ t b i.now
  | claimDocument d taskId =>
    refine locked_change ?_
    unfold SC04State.claimDocument
    split
    · exact .same _ rfl rfl (sameRefs_refl s)
    · split
      · exact .same _ rfl rfl (sameRefs_setDocument d fun _ => ⟨rfl, rfl⟩)
      · exact .same _ rfl rfl (sameRefs_refl s)
  | createAttempt d taskId text => exact locked_change (.created pid d taskId text)
  | recordClassifierFailure d taskId a e =>
    exact locked_change (.classifierFailed pid d taskId a e i.now)
  | recordUnexpectedFailure taskId a => exact locked_change (.unexpectedFailed pid taskId a i.now)
  | decide_ d taskId a prediction exact_ ambiguous =>
    refine locked_change ?_
    cases h : s.decide_ platform d a prediction exact_ ambiguous i.now with
    | mk r s' =>
      cases r with
      | ok b => exact .decided pid d taskId a prediction exact_ ambiguous i.now h
      | error e =>
        -- what the transaction raises rolls it back
        have hs : s' = s := by
          unfold SC04State.decide_ at h
          dsimp only at h
          split at h
          · exact (Prod.mk.inj h).2.symm
          · split at h
            · cases h
            · exact (Prod.mk.inj h).2.symm
            · split at h
              · cases h
              · exact (Prod.mk.inj h).2.symm
        exact .same _ (by rw [hs]) (by rw [hs]) (by rw [hs]; exact sameRefs_refl s)
  | executeRoute d taskId => exact locked_change (executeRoute_change _ d i.copyError i.copy)
  | markDocumentFailed d taskId message =>
    show SC04Change platform s _ (s.markDocumentFailed d taskId message).2
    unfold SC04State.markDocumentFailed
    split
    · exact .same _ rfl rfl (sameRefs_refl s)
    · exact .same _ rfl rfl (sameRefs_setDocument d fun _ => ⟨rfl, rfl⟩)
  | _ => exact .same _ rfl rfl (sameRefs_refl s)

end Changes

section Invariant

variable {platform : SC04Platform} {threshold : ℚ} {s s' : SC04State} {pid : ℕ} {d : DocumentId}
  {i : AttemptId}

/-- The columns of an attempt that no update writes. -/
def ClassificationAttempt.place (a : ClassificationAttempt) : DocumentId × ℕ := (a.document, a.sequence)

theorem sequences_eq (s : SC04State) (d : DocumentId) : (s.attemptsOf d).map (·.sequence) =
    ((s.attempts.map (·.place)).filter fun p => p.1 == d).map (·.2) := by
  rw [List.filter_map, List.map_map]
  rfl

/-- Updates of other columns leave the numbers. -/
theorem ClassificationKept.numbered_of_place (h : ClassificationKept threshold s)
    (hplace : s'.attempts.map (·.place) = s.attempts.map (·.place)) (d : DocumentId) :
    (s'.attemptsOf d).map (·.sequence) = List.range' 1 (s'.attemptsOf d).length := by
  have hsame : (s'.attemptsOf d).map (·.sequence) = (s.attemptsOf d).map (·.sequence) := by
    rw [sequences_eq, hplace, ← sequences_eq]
  have hlength := congrArg List.length hsame
  rw [List.length_map, List.length_map] at hlength
  rw [hsame, hlength]
  exact h.numbered d

theorem place_modify {attempts : List ClassificationAttempt} {i : ℕ}
    {f : ClassificationAttempt → ClassificationAttempt} (hf : ∀ a, (f a).place = a.place) :
    (attempts.modify i f).map (·.place) = attempts.map (·.place) := by
  refine List.ext_getElem? fun j => ?_
  rw [List.getElem?_map, List.getElem?_map, List.getElem?_modify, Option.map_eq_map, Option.map_map]
  refine congrArg (Option.map · _) (funext fun a => ?_)
  rw [Function.comp_apply]
  split
  · exact hf a
  · rfl

/-- What is ended stays so: the reviews and the decisions that are not written are kept. -/
theorem RefsKept.mono {x : Option DocumentReview × Option AttemptDecision}
    (h : RefsKept threshold s d x)
    (hended : ∀ i st a, s.Ended d i st a → s'.Ended d i st a) : RefsKept threshold s' d x := by
  refine ⟨fun r hr => ?_, fun y hy ho => ?_, h.human⟩
  · obtain ⟨a, ha⟩ := h.review r hr
    exact ⟨a, hended _ _ _ ha⟩
  · obtain ⟨a, ha, hp⟩ := h.automatic y hy ho
    exact ⟨a, hended _ _ _ ha, hp⟩

theorem ClassificationKept.refs_of_same (h : ClassificationKept threshold s) (hrefs : SameRefs s s')
    (hended : ∀ d i st a, s.Ended d i st a → s'.Ended d i st a) (d : DocumentId)
    (x : Option DocumentReview × Option AttemptDecision) (hx : s'.refs d = some x) :
    RefsKept threshold s' d x := by
  rcases hrefs d with hsame | ⟨-, hnew⟩
  · exact (h.refs d x (hsame ▸ hx)).mono (hended d)
  · obtain rfl := Option.some.inj (hnew.symm.trans hx)
    refine ⟨fun r hr => ?_, fun y hy _ => ?_, fun y hy _ => ?_⟩
    · cases hr
    · cases hy
    · cases hy

/-- An interruption only ends an attempt that nobody has ended. -/
theorem interrupt_ended (h : ClassificationKept threshold s) {message : String} {now : ℕ}
    (hattempts : s'.attempts = s.attempts.map (·.interrupt message now))
    (howners : s'.owners = s.owners) {st : ClassificationAttemptStatus} {a : ClassificationAttempt}
    (ha : s.Ended d i st a) : s'.Ended d i st a := by
  have hnot := (h.rows i a ha.row).2 ha.owner
  refine ⟨?_, ha.document, ha.status, by rw [howners]; exact ha.owner⟩
  rw [hattempts, List.getElem?_map, ha.row, Option.map_some, ClassificationAttempt.interrupt,
    if_neg (by simpa using hnot)]

theorem ClassificationAttempt.Consistent.interrupt {a : ClassificationAttempt} (h : a.Consistent)
    (message : String) (now : ℕ) : (a.interrupt message now).Consistent := by
  unfold ClassificationAttempt.interrupt
  split
  · next hst =>
    have hst' : a.status = .processing := by simpa using hst
    have hnone : a.prediction = none := by
      cases hp : a.prediction with
      | none => rfl
      | some p =>
        have hsucceeded := h.predicted.1 (by rw [hp]; rfl)
        rw [hst'] at hsucceeded
        cases hsucceeded
    exact ⟨by simp, by simp [hnone], by simp [hnone]⟩
  · exact h

theorem ClassificationKept.interrupted (h : ClassificationKept threshold s) {message : String}
    {now : ℕ} (hattempts : s'.attempts = s.attempts.map (·.interrupt message now))
    (howners : s'.owners = s.owners) (hrefs : SameRefs s s') : ClassificationKept threshold s' := by
  refine ⟨h.numbered_of_place ?_, ?_, ?_,
    h.refs_of_same hrefs fun d i st a ha => interrupt_ended h hattempts howners ha⟩
  · rw [hattempts, List.map_map]
    refine List.map_congr_left fun a _ => ?_
    rw [Function.comp_apply, ClassificationAttempt.interrupt]
    split <;> rfl
  · intro i a ha
    rw [hattempts, List.getElem?_map, Option.map_eq_some_iff] at ha
    obtain ⟨a, ha, rfl⟩ := ha
    obtain ⟨hconsistent, hclosed⟩ := h.rows i a ha
    refine ⟨hconsistent.interrupt message now, fun _ => ?_⟩
    unfold ClassificationAttempt.interrupt
    split
    · simp
    · next hst => simpa using hst
  · intro i hi
    rw [howners]
    rw [hattempts, List.length_map] at hi
    exact h.fresh i hi

/-- **A new attempt**: the next number of its document, and its worker owns it. -/
theorem ClassificationKept.created (h : ClassificationKept threshold s) (pid : ℕ) (d : DocumentId)
    (text : String) : ClassificationKept threshold (s.createAttempt pid d text).2 := by
  refine ⟨?_, ?_, ?_, h.refs_of_same (fun _ => .inl rfl) ?_⟩
  · intro d'
    simp only [SC04State.createAttempt, SC04State.attemptsOf, List.filter_append]
    by_cases hd : d = d'
    · subst hd
      have hnum := h.numbered d
      simp only [SC04State.attemptsOf] at hnum
      simp only [List.filter_cons, beq_self_eq_true, if_true, List.filter_nil, List.map_append,
        List.map_cons, List.map_nil, List.length_append, List.length_singleton, hnum,
        List.range'_concat, Nat.one_mul]
      rw [foldr_max_numbered _ 1 (by omega)]
      split
      · next hnil => rw [hnil]
      · rfl
    · simpa [List.filter_cons, hd, SC04State.attemptsOf] using h.numbered d'
  · intro j a ha
    change (s.attempts ++ [_])[j]? = some a at ha
    rcases Rows.append_cases ha with hold | ⟨rfl, rfl⟩
    · refine ⟨(h.rows j a hold).1, fun ho => (h.rows j a hold).2 ?_⟩
      have hlt := (List.getElem?_eq_some_iff.1 hold).1
      change Function.update s.owners s.attempts.length _ j = none at ho
      rwa [Function.update_of_ne (Nat.ne_of_lt hlt)] at ho
    · refine ⟨⟨by simp, by simp, by simp⟩, fun ho => ?_⟩
      change Function.update s.owners s.attempts.length (some pid) s.attempts.length = none at ho
      rw [Function.update_self] at ho
      cases ho
  · intro j hj
    have hlt : s.attempts.length + 1 ≤ j := by
      simpa [SC04State.createAttempt] using hj
    show Function.update s.owners s.attempts.length (some pid) j = none
    rw [Function.update_of_ne (Nat.ne_of_gt hlt)]
    exact h.fresh j (Nat.le_of_lt hlt)
  · intro d' j st a ha
    have hlt := (List.getElem?_eq_some_iff.1 ha.row).1
    refine ⟨Rows.append_some ha.row, ha.document, ha.status, ?_⟩
    show Function.update s.owners s.attempts.length (some pid) j = none
    rw [Function.update_of_ne (Nat.ne_of_lt hlt)]
    exact ha.owner

/-- A write of an attempt by its worker leaves what is ended. -/
theorem write_ended (hown : s.Owns pid d i) {f : ClassificationAttempt → ClassificationAttempt}
    {d' : DocumentId} {j : AttemptId} {st : ClassificationAttemptStatus} {a : ClassificationAttempt}
    (ha : s.Ended d' j st a) : (s.writeAttempt i f).Ended d' j st a := by
  have hne : i ≠ j := by
    rintro rfl
    have ho := hown.1
    rw [ha.owner] at ho
    cases ho
  refine ⟨?_, ha.document, ha.status, ?_⟩
  · show (s.attempts.modify i f)[j]? = some a
    rw [List.getElem?_modify_ne f _ hne]
    exact ha.row
  · show Function.update s.owners i none j = none
    rw [Function.update_of_ne hne.symm]
    exact ha.owner

/-- The attempt that its worker has written. -/
theorem write_self (hown : s.Owns pid d i) {f : ClassificationAttempt → ClassificationAttempt}
    (hf : ∀ a, (f a).place = a.place) : ∃ a, s.attempts[i]? = some a ∧ a.prediction = none ∧
      (s.writeAttempt i f).Ended d i (f a).status (f a) := by
  obtain ⟨-, a, ha, hd, hp⟩ := hown
  refine ⟨a, ha, hp, ?_, ?_, rfl, Function.update_self ..⟩
  · show (s.attempts.modify i f)[i]? = some (f a)
    rw [List.getElem?_modify_eq, ha]
    rfl
  · rw [← hd]
    exact congrArg Prod.fst (hf a)

/-- **A write of an attempt by its worker**: its row, and the rest of the invariant but what refers
to it. -/
theorem ClassificationKept.written (h : ClassificationKept threshold s) (hown : s.Owns pid d i)
    {f : ClassificationAttempt → ClassificationAttempt} (hf : ∀ a, (f a).place = a.place)
    (hrow : ∀ a, s.attempts[i]? = some a → a.prediction = none → a.Consistent →
      (f a).Consistent ∧ (f a).status ≠ .processing)
    (hattempts : s'.attempts = (s.writeAttempt i f).attempts)
    (howners : s'.owners = (s.writeAttempt i f).owners)
    (hrefs : ∀ d x, s'.refs d = some x → RefsKept threshold s' d x) :
    ClassificationKept threshold s' := by
  refine ⟨h.numbered_of_place ?_, ?_, ?_, hrefs⟩
  · rw [hattempts]
    exact place_modify hf
  · intro j a ha
    rw [hattempts] at ha
    rw [howners]
    change (s.attempts.modify i f)[j]? = some a at ha
    by_cases heq : i = j
    · subst heq
      rw [List.getElem?_modify_eq, Option.map_eq_map, Option.map_eq_some_iff] at ha
      obtain ⟨a, ha, rfl⟩ := ha
      obtain ⟨-, a', ha', -, hp⟩ := hown
      obtain rfl := Option.some.inj (ha.symm.trans ha')
      obtain ⟨hconsistent, hst⟩ := hrow a ha hp (h.rows i a ha).1
      exact ⟨hconsistent, fun _ => hst⟩
    · rw [List.getElem?_modify_ne f _ heq] at ha
      refine ⟨(h.rows j a ha).1, fun ho => (h.rows j a ha).2 ?_⟩
      change Function.update s.owners i none j = none at ho
      rwa [Function.update_of_ne (Ne.symm heq)] at ho
  · intro j hj
    rw [howners]
    rw [hattempts] at hj
    change (s.attempts.modify i f).length ≤ j at hj
    rw [List.length_modify] at hj
    show Function.update s.owners i none j = none
    by_cases heq : j = i
    · subst heq
      exact Function.update_self ..
    · rw [Function.update_of_ne heq]
      exact h.fresh j hj

/-- The write of the attempt in `_record_classifier_failure`. -/
def refused (e : ClassifierError) (now : ℕ) (a : ClassificationAttempt) : ClassificationAttempt :=
  { a with
    status := if e.kind == .invalidResponse then .invalidResponse else .failed
    errorCode := e.kind.code, errorMessage := e.message, finishedAt := some now }

/-- The write of the attempt in `_record_unexpected_classifier_failure`. -/
def unexpected (now : ℕ) (a : ClassificationAttempt) : ClassificationAttempt :=
  if a.status == .processing then
    { a with
      status := .failed, errorCode := "unexpected_classifier_error"
      errorMessage := "O classificador não pôde concluir a solicitação."
      finishedAt := some now }
  else a

/-- **A failure of the classifier**: the attempt gets its outcome, and the document a review of it. -/
theorem ClassificationKept.classifierFailed (h : ClassificationKept threshold s)
    (hown : s.Owns pid d i) (e : ClassifierError) (now : ℕ) :
    ClassificationKept threshold (s.recordClassifierFailure d i e now) := by
  refine h.written (f := refused e now) hown (fun _ => rfl) ?_ rfl rfl ?_
  · intro a _ hp hconsistent
    unfold refused
    cases e.kind <;> exact ⟨⟨by simp, by simp [hp], by simp [hp]⟩, by simp⟩
  · intro d' x hx
    rw [SC04State.recordClassifierFailure, refs_setDocument, Option.map_eq_some_iff] at hx
    obtain ⟨y, hy, rfl⟩ := hx
    have hended : ∀ j st a, s.Ended d' j st a →
        (s.recordClassifierFailure d i e now).Ended d' j st a := by
      intro j st a ha
      have hw := write_ended hown (f := refused e now) ha
      exact ⟨hw.row, hw.document, hw.status, hw.owner⟩
    have hkept := (h.refs d' (y.review, y.decision)
      (by rw [SC04State.refs]; exact Option.map_eq_some_iff.2 ⟨y, hy, rfl⟩)).mono hended
    by_cases hd : d = d'
    · subst hd
      rw [if_pos rfl]
      refine ⟨fun r hr => ?_, hkept.automatic, fun z hz ho => ?_⟩
      · cases hreview : y.review with
        | some r' =>
          -- a review that is there stays
          simp only [SC04Document.openReview, hreview, Option.some_or] at hr
          exact hkept.review r (hreview ▸ hr)
        | none =>
          simp only [SC04Document.openReview, hreview, Option.none_or, Option.some.injEq] at hr
          subst hr
          obtain ⟨a, -, -, hself⟩ := write_self hown (f := refused e now) fun _ => rfl
          refine ⟨_, hself.row, hself.document, ?_, hself.owner⟩
          unfold refused
          cases e.kind <;> rfl
      · obtain ⟨r, hr, hrest⟩ := hkept.human z hz ho
        refine ⟨r, ?_, hrest⟩
        change (y.review.or _) = some r
        rw [show y.review = some r from hr, Option.some_or]
    · rw [if_neg hd]
      exact hkept

/-- **An unexpected failure of the classifier**: the attempt is ended, if nobody has ended it. -/
theorem ClassificationKept.unexpectedFailed (h : ClassificationKept threshold s)
    (hown : s.Owns pid d i) (now : ℕ) :
    ClassificationKept threshold (s.recordUnexpectedFailure i now) := by
  refine h.written (f := unexpected now) hown (fun a => ?_) ?_ rfl rfl ?_
  · unfold unexpected
    split <;> rfl
  · intro a _ hp hconsistent
    unfold unexpected
    split
    · exact ⟨⟨by simp, by simp [hp], by simp [hp]⟩, by simp⟩
    · next hst => exact ⟨hconsistent, by simpa using hst⟩
  · exact h.refs_of_same (sameRefs_refl s) fun d st j a ha => write_ended hown ha

theorem reviewReason_status {documentType : DocumentType} {typeConfidence : ℚ}
    {client : Option FiscalClient} {clientConfidence : ℚ} {ambiguous : Bool}
    {reason : DocumentReviewReason}
    (h : reviewReason threshold documentType typeConfidence client clientConfidence ambiguous =
      some reason) : reason.attemptStatus = .succeeded := by
  unfold reviewReason at h
  split at h
  · obtain rfl := Option.some.inj h; rfl
  · split at h
    · obtain rfl := Option.some.inj h; rfl
    · split at h
      · obtain rfl := Option.some.inj h; rfl
      · split at h
        · obtain rfl := Option.some.inj h; rfl
        · cases h

/-- The write of the attempt in the transaction after the classifier. -/
def completed (prediction : ProviderPrediction) (predicted : Option FiscalClient) (now : ℕ)
    (a : ClassificationAttempt) : ClassificationAttempt :=
  { a with
    status := .succeeded, prediction := some prediction, predictedClient := predicted
    finishedAt := some now }

/-- **The transaction after the classifier**: the attempt succeeds, and the document gets a review
for a reason of the policy, or a decision that the policy accepts. -/
theorem decide_document_cases {prediction : ProviderPrediction} {exact_ : Option FiscalClient}
    {ambiguous b : Bool} {now : ℕ}
    (h : s.decide_ platform d i prediction exact_ ambiguous now = (.ok b, s')) :
    ∃ (f : SC04Document → SC04Document)
      (g : SC04Document → Option DocumentReview × Option AttemptDecision), s' = (s.writeAttempt i
        (completed prediction (s.predictedClient prediction) now)).setDocument d f ∧
      (∀ x, ((f x).review, (f x).decision) = g x) ∧
      ((∃ reason, reason.attemptStatus = .succeeded ∧ ∀ x : SC04Document, g x =
          (x.review.or (some { suggestedAttempt := i, reason := reason }), x.decision)) ∨
        ∃ decision : AttemptDecision, decision.classificationAttempt = i ∧
          decision.origin = .automatic ∧
          decision.documentType = prediction.validated.documentType ∧
          prediction.validated.isAmbiguous = false ∧
          platform.threshold ≤ prediction.validated.typeConfidence ∧
          decision.documentType ≠ .unknown ∧ decision.documentType ≠ .other ∧
          (∀ x, s.documents[d]? = some x → x.decision = none) ∧
          ∀ x : SC04Document, g x = (x.review, some decision)) := by
  have hcompose : ∀ (t : SC04State) (f g : SC04Document → SC04Document),
      (t.setDocument d f).setDocument d g = t.setDocument d (g ∘ f) := by
    intro t f g
    simp only [SC04State.setDocument, List.modify_modify_eq]
  unfold SC04State.decide_ at h
  dsimp only at h
  split at h
  · cases h
  split at h
  · next reason hreason =>
    obtain ⟨-, rfl⟩ := Prod.mk.inj h
    exact ⟨_, _, hcompose _ _ _, fun x => rfl, .inl ⟨reason, reviewReason_status hreason, fun x => rfl⟩⟩
  · cases h
  · next client hreason hclient =>
    split at h
    · next hnone =>
      obtain ⟨-, rfl⟩ := Prod.mk.inj h
      obtain ⟨hambiguous, ⟨hunknown, hother⟩, -, hle, -⟩ := reviewReason_none.1 hreason
      rw [Bool.or_eq_false_iff] at hambiguous
      refine ⟨_, _, hcompose _ _ _, fun x => rfl, .inr ⟨_, rfl, rfl, rfl, hambiguous.2, hle, hunknown,
        hother, fun x hx => ?_, fun x => rfl⟩⟩
      simpa [hx] using hnone
    · cases h

/-- **The transaction after the classifier keeps the invariant.** -/
theorem ClassificationKept.decided (h : ClassificationKept platform.threshold s)
    (hown : s.Owns pid d i) {prediction : ProviderPrediction} (hvalid : prediction.validated.Valid)
    {exact_ : Option FiscalClient} {ambiguous b : Bool} {now : ℕ}
    (hdecide : s.decide_ platform d i prediction exact_ ambiguous now = (.ok b, s')) :
    ClassificationKept platform.threshold s' := by
  obtain ⟨f, g, rfl, hfg, hcases⟩ := decide_document_cases hdecide
  obtain ⟨a, ha, -, hself⟩ := write_self hown
    (f := completed prediction (s.predictedClient prediction) now) fun _ => rfl
  refine h.written (f := completed prediction (s.predictedClient prediction) now) hown
    (fun _ => rfl) ?_ rfl rfl ?_
  · intro a _ _ _
    refine ⟨⟨by simp [completed], by simp [completed], ?_⟩, by simp [completed]⟩
    rintro p ⟨⟩
    exact hvalid
  intro d' x hx
  rw [refs_setDocument, Option.map_eq_some_iff] at hx
  obtain ⟨y, hy, rfl⟩ := hx
  have hkept : RefsKept platform.threshold ((s.writeAttempt i
      (completed prediction (s.predictedClient prediction) now)).setDocument d f) d'
      (y.review, y.decision) := by
    refine (h.refs d' (y.review, y.decision)
      (by rw [SC04State.refs]; exact Option.map_eq_some_iff.2 ⟨y, hy, rfl⟩)).mono ?_
    intro j st a ha
    have hw := write_ended hown
      (f := completed prediction (s.predictedClient prediction) now) ha
    exact ⟨hw.row, hw.document, hw.status, hw.owner⟩
  by_cases hd : d = d'
  · subst hd
    rw [if_pos rfl, hfg]
    rcases hcases with ⟨reason, hreason, hg⟩ | ⟨decision, hattempt, horigin, htype, hambiguous, hle,
      hunknown, hother, hfree, hg⟩
    · rw [hg]
      refine ⟨fun r hr => ?_, hkept.automatic, fun z hz ho => ?_⟩
      · cases hreview : y.review with
        | some r' =>
          rw [hreview, Option.some_or] at hr
          exact hkept.review r (hreview ▸ hr)
        | none =>
          rw [hreview, Option.none_or, Option.some.injEq] at hr
          subst hr
          exact ⟨_, hself.row, hself.document, hreason ▸ hself.status, hself.owner⟩
      · obtain ⟨r, hr, hrest⟩ := hkept.human z hz ho
        refine ⟨r, ?_, hrest⟩
        change (y.review.or _) = some r
        rw [show y.review = some r from hr, Option.some_or]
    · rw [hg]
      refine ⟨hkept.review, fun z hz _ => ?_, fun z hz ho => ?_⟩
      · obtain rfl := Option.some.inj hz
        rw [hattempt]
        exact ⟨_, ⟨hself.row, hself.document, hself.status, hself.owner⟩,
          ⟨prediction, rfl, htype, hambiguous, hle⟩, hunknown, hother⟩
      · obtain rfl := Option.some.inj hz
        rw [horigin] at ho
        cases ho
  · rw [if_neg hd]
    exact hkept

/-- **The review of a person**: the decision is for the attempt that was suggested. -/
theorem ClassificationKept.resolved (h : ClassificationKept threshold s) (d : DocumentId)
    (documentType : DocumentType) (client : FiscalClient) :
    ClassificationKept threshold (s.resolveReview d documentType client) := by
  unfold SC04State.resolveReview
  split
  · exact h
  · next review hreview =>
    split
    · exact h
    · next hfree =>
      refine ⟨h.numbered, h.rows, h.fresh, fun d' x hx => ?_⟩
      rw [refs_setDocument, Option.map_eq_some_iff] at hx
      obtain ⟨y, hy, rfl⟩ := hx
      have hkept := h.refs d' (y.review, y.decision)
        (by rw [SC04State.refs]; exact Option.map_eq_some_iff.2 ⟨y, hy, rfl⟩)
      by_cases hd : d = d'
      · subst hd
        rw [if_pos rfl]
        rw [hy, Option.bind_some] at hreview
        refine ⟨fun r hr => ?_, fun z hz ho => ?_, fun z hz _ => ?_⟩
        · obtain rfl := Option.some.inj hr
          obtain ⟨a, ha⟩ := hkept.review review hreview
          exact ⟨a, ha.row, ha.document, ha.status, ha.owner⟩
        · obtain rfl := Option.some.inj hz
          cases ho
        · obtain rfl := Option.some.inj hz
          exact ⟨_, rfl, rfl, rfl⟩
      · rw [if_neg hd]
        exact hkept.mono fun j st a ha => ⟨ha.row, ha.document, ha.status, ha.owner⟩

/-- **One move keeps the invariant.** -/
theorem SC04Change.kept {who : Option (ℕ × SC04Label)} (hc : SC04Change platform s who s')
    (h : ClassificationKept platform.threshold s)
    (hpre : ∀ pid l, who = some (pid, l) → sc04Pre pid l s) :
    ClassificationKept platform.threshold s' := by
  cases hc with
  | same _ attempts owners refs =>
    refine ⟨h.numbered_of_place (by rw [attempts]), fun i a ha => ?_, fun i hi => ?_,
      h.refs_of_same refs fun d i st a ha => ?_⟩
    · rw [attempts] at ha
      rw [owners]
      exact h.rows i a ha
    · rw [attempts] at hi
      rw [owners]
      exact h.fresh i hi
    · exact ⟨attempts ▸ ha.row, ha.document, ha.status, owners ▸ ha.owner⟩
  | interrupted _ message now attempts owners refs => exact h.interrupted attempts owners refs
  | created pid d taskId text => exact h.created pid d text
  | classifierFailed pid d taskId a e now => exact h.classifierFailed (hpre pid _ rfl) e now
  | unexpectedFailed pid taskId a now =>
    obtain ⟨d, hown⟩ := hpre pid _ rfl
    exact h.unexpectedFailed hown now
  | decided pid d taskId a prediction exact_ ambiguous now hdecide =>
    obtain ⟨hown, hvalid⟩ := hpre pid _ rfl
    exact h.decided hown hvalid hdecide
  | resolved d documentType client => exact h.resolved d documentType client

/-- A write of an attempt by its worker leaves the attempts of the others. -/
theorem write_owns {q : ℕ} (hown : s.Owns pid d i) (hq : pid ≠ q)
    {f : ClassificationAttempt → ClassificationAttempt} {d' : DocumentId} {j : AttemptId}
    (h : s.Owns q d' j) : (s.writeAttempt i f).Owns q d' j := by
  obtain ⟨ho, a, ha, hrest⟩ := h
  have hne : j ≠ i := by
    rintro rfl
    exact hq (Option.some.inj (hown.1.symm.trans ho))
  refine ⟨?_, a, ?_, hrest⟩
  · show Function.update s.owners i none j = some q
    rw [Function.update_of_ne hne, ho]
  · show (s.attempts.modify i f)[j]? = some a
    rw [List.getElem?_modify_ne f _ hne.symm, ha]

/-- **One move of another process** leaves a worker its attempt. -/
theorem SC04Change.rely {who : Option (ℕ × SC04Label)} (hc : SC04Change platform s who s')
    (hpre : ∀ pid l, who = some (pid, l) → sc04Pre pid l s) {q : ℕ}
    (hq : ∀ pid l, who = some (pid, l) → pid ≠ q) : sc04Rely q s s' := by
  intro d j hj
  cases hc with
  | same _ attempts owners refs =>
    obtain ⟨ho, a, ha, hrest⟩ := hj
    exact ⟨owners ▸ ho, a, attempts ▸ ha, hrest⟩
  | interrupted _ message now attempts owners refs =>
    obtain ⟨ho, a, ha, hd, hp⟩ := hj
    refine ⟨owners ▸ ho, a.interrupt message now, ?_, ?_⟩
    · rw [attempts, List.getElem?_map, ha, Option.map_some]
    · -- an interruption leaves the document and the prediction
      unfold ClassificationAttempt.interrupt
      split <;> exact ⟨hd, hp⟩
  | created pid d' taskId text =>
    obtain ⟨ho, a, ha, hrest⟩ := hj
    have hlt := (List.getElem?_eq_some_iff.1 ha).1
    refine ⟨?_, a, Rows.append_some ha, hrest⟩
    show Function.update s.owners s.attempts.length (some pid) j = some q
    rw [Function.update_of_ne (Nat.ne_of_lt hlt), ho]
  | classifierFailed pid d' taskId a e now =>
    have hw := write_owns (f := refused e now) (hpre pid _ rfl) (hq pid _ rfl) hj
    exact ⟨hw.1, hw.2⟩
  | unexpectedFailed pid taskId a now =>
    obtain ⟨d', hown⟩ := hpre pid _ rfl
    exact write_owns hown (hq pid _ rfl) hj
  | decided pid d' taskId a prediction exact_ ambiguous now hdecide =>
    obtain ⟨f, g, rfl, -, -⟩ := decide_document_cases hdecide
    have hw := write_owns (f := completed prediction (s.predictedClient prediction) now)
      (hpre pid _ rfl).1 (hq pid _ rfl) hj
    exact ⟨hw.1, hw.2⟩
  | resolved d' documentType client =>
    obtain ⟨ho, a, ha, hrest⟩ := hj
    have hsame : (s.resolveReview d' documentType client).attempts = s.attempts ∧
        (s.resolveReview d' documentType client).owners = s.owners := by
      unfold SC04State.resolveReview
      split
      · exact ⟨rfl, rfl⟩
      · split <;> exact ⟨rfl, rfl⟩
    exact ⟨hsame.2 ▸ ho, a, hsame.1 ▸ ha, hrest⟩

end Invariant

section Outline

/-- What the deliveries assume of each other. -/
def sc04Outline (platform : SC04Platform) :
    Outline SC04Label SC04Exception SC04State SC04Fate SC04Process SC04Event where
  inv := ClassificationKept platform.threshold
  rely := sc04Rely
  pre := sc04Pre
  ok _ _ _ := True
  post _ _ _ _ := True

variable {platform : SC04Platform} {s : SC04State} {pid : ℕ}

/-- The contract of the deliveries. -/
abbrev sc04Contract (platform : SC04Platform) :
    Contract SC04Label SC04Label.Resp SC04Exception SC04State :=
  (sc04Outline platform).contract (sc04System platform)

/-- An action that needs nothing, and the rest of the program. -/
theorem sc04_bind {α : Type} (l : SC04Label) (hl : ∀ s, sc04Pre pid l s)
    {k : l.Resp → SC04Prog α}
    (hk : ∀ a s, wp (sc04Contract platform) pid (k a) (fun _ _ => True) s) :
    wp (sc04Contract platform) pid ((Prog.call l).bind k) (fun _ _ => True) s := by
  refine wp_bind (wp_call fun s' _ _ => ⟨hl s', ?_⟩)
  rintro (e | a) s'' -
  · trivial
  · exact hk a s''

/-- The new attempt belongs to its worker. -/
theorem createAttempt_owns {d : DocumentId} {taskId : Option TaskId} {text : String} {i : SC04Fate}
    {a : AttemptId} {s' : SC04State}
    (h : SC04State.sem platform pid (.createAttempt d taskId text) i s = (.ok a, s')) :
    s'.Owns pid d a := by
  unfold SC04State.sem at h
  split at h
  · cases h
  · change s.locked taskId (.ok (s.createAttempt pid d text).1, (s.createAttempt pid d text).2) = _ at h
    unfold SC04State.locked at h
    split at h
    · obtain ⟨ha, rfl⟩ := Prod.mk.inj h
      obtain rfl := Except.ok.inj ha
      refine ⟨Function.update_self .., _, List.getElem?_concat_length, rfl, rfl⟩
    · cases h

/-- The call of the classifier changes nothing, and its answer is valid. -/
theorem classify_answer {codes : List String} {i : SC04Fate}
    {r : Except SC04Exception ProviderPrediction} {s' : SC04State}
    (h : SC04State.sem platform pid (.classify codes) i s = (r, s')) :
    s' = s ∧ ∀ p, r = .ok p → p.validated.Valid := by
  unfold SC04State.sem at h
  split at h
  · obtain ⟨rfl, rfl⟩ := Prod.mk.inj h
    refine ⟨rfl, fun p hp => ?_⟩
    cases hp
  · obtain ⟨rfl, rfl⟩ := Prod.mk.inj h
    refine ⟨rfl, fun p hp => ?_⟩
    cases hclassify : SheepContabil.classify platform.configured platform.loads codes i.provider with
    | error e => rw [hclassify] at hp; cases hp
    | ok p' =>
      rw [hclassify] at hp
      obtain rfl := Except.ok.inj hp
      exact classify_valid hclassify

/-- **A worker writes only the attempt it created**, with a valid answer. -/
theorem classifyDocument_outline (d : DocumentId) (taskId : Option TaskId) :
    wp (sc04Contract platform) pid (classifyDocument platform.unicode d taskId)
      (fun _ _ => True) s := by
  unfold classifyDocument
  simp only [Prog.bind_eq]
  refine sc04_bind (.getBytes d) (fun _ => trivial) fun _ s =>
    sc04_bind (.extract d) (fun _ => trivial) fun text s =>
    sc04_bind .activeClients (fun _ => trivial) fun clients s => ?_
  refine wp_bind (wp_call fun s1 _ _ => ⟨trivial, ?_⟩)
  rintro (e | a) s2 ⟨i, -, hsem⟩
  · trivial
  have hown := createAttempt_owns hsem
  refine wp_bind (wp_attempt (wp_call fun s3 hr3 _ => ⟨trivial, ?_⟩))
  rintro r s4 ⟨i', -, hsem'⟩
  obtain ⟨rfl, hvalid⟩ := classify_answer hsem'
  have hown4 := hr3 d a hown
  -- each handler writes the attempt once, and then the rest needs nothing
  cases r with
  | ok prediction =>
    refine wp_bind (wp_call fun s5 hr5 _ => ⟨⟨hr5 d a hown4, hvalid prediction rfl⟩, ?_⟩)
    rintro (e | routes) s6 -
    · trivial
    · cases routes with
      | true => exact wp_call fun _ _ _ => ⟨trivial, fun _ _ _ => trivial⟩
      | false => trivial
  | error e =>
    have hunexpected : ∀ e', wp (sc04Contract platform) pid
        ((Prog.call (.recordUnexpectedFailure taskId a)).bind fun _ => (Prog.raise e' : SC04Prog Unit))
        (fun _ _ => True) s4 := by
      intro e'
      refine wp_bind (wp_call fun s5 hr5 _ => ⟨⟨d, hr5 d a hown4⟩, ?_⟩)
      rintro (e | u) s6 - <;> trivial
    cases e with
    | classifier e => exact wp_call fun s5 hr5 _ => ⟨hr5 d a hown4, fun _ _ _ => trivial⟩
    | superseded => exact hunexpected _
    | storageOperation m => exact hunexpected _
    | python e =>
      cases e with
      | baseException name => trivial
      | _ => exact hunexpected _

/-- The actions of a delivery but those of `classifyDocument` need nothing. -/
theorem processDocument_outline (d : DocumentId) (taskId : Option TaskId) :
    wp (sc04Contract platform) pid (processDocument platform.unicode d taskId)
      (fun _ _ => True) s := by
  unfold processDocument
  refine sc04_bind (.claimDocument d taskId) (fun _ => trivial) fun claimed s => ?_
  cases claimed with
  | false => trivial
  | true =>
    refine wp_tryCatch (wp_mono ?_ (classifyDocument_outline d taskId))
    rintro (e | u) s -
    · have hmark : ∀ message (handle : SC04Exception → SC04Prog Unit),
          (∀ e s', wp (sc04Contract platform) pid (handle e) (fun _ _ => True) s') →
          wp (sc04Contract platform) pid
            (Prog.tryCatch (Prog.call (SC04Label.markDocumentFailed d taskId message)) handle)
            (fun _ _ => True) s := by
        intro message handle hhandle
        refine wp_tryCatch (wp_call fun _ _ _ => ⟨trivial, ?_⟩)
        rintro (e | u) s' -
        · exact hhandle e s'
        · trivial
      cases e with
      | superseded => trivial
      | classifier e => exact hmark _ _ fun e s' => by cases e <;> trivial
      | storageOperation m => exact hmark _ _ fun e s' => by cases e <;> trivial
      | python e =>
        cases e with
        | baseException name => trivial
        | _ => exact hmark _ _ fun e s' => by cases e <;> trivial
    · trivial

theorem processDocuments_outline (taskId : Option TaskId) :
    wp (sc04Contract platform) pid (processDocuments platform.unicode taskId)
      (fun _ _ => True) s := by
  unfold processDocuments
  refine sc04_bind .newDocuments (fun _ => trivial) fun documents s => ?_
  refine wp_bind (wp_mono (Q := fun _ _ => True) ?_ ?_)
  · rintro (e | u) s -
    · trivial
    · exact wp_call fun _ _ _ => ⟨trivial, fun _ _ _ => trivial⟩
  · induction documents generalizing s with
    | nil => trivial
    | cons d rest ih =>
      refine wp_bind (wp_mono (Q := fun _ _ => True) ?_ ?_)
      · rintro (e | u) s -
        · trivial
        · exact ih s
      · exact sc04_bind (.requireCurrentDelivery taskId) (fun _ => trivial) fun _ s =>
          sc04_bind (.touchRun taskId) (fun _ => trivial) fun _ s => processDocument_outline d taskId

theorem executeDocuments_outline (t : SuppliedTaskId) (b : Bool) :
    wp (sc04Contract platform) pid (executeDocuments platform.unicode t b) (fun _ _ => True) s := by
  unfold executeDocuments
  refine sc04_bind (.startRun t b) (fun _ => trivial) fun started s => ?_
  cases started with
  | none => trivial
  | some taskId =>
    refine wp_tryCatch (wp_mono ?_ (processDocuments_outline taskId))
    rintro (e | u) s -
    · have hfinish : ∀ e', wp (sc04Contract platform) pid
          ((Prog.call (.finishUnhandledFailure taskId "Exception")).bind
            fun _ => (Prog.raise e' : SC04Prog Unit)) (fun _ _ => True) s :=
        fun e' => sc04_bind _ (fun _ => by trivial) fun _ _ => trivial
      cases e with
      | superseded => trivial
      | classifier e => exact hfinish _
      | storageOperation m => exact hfinish _
      | python e =>
        cases e with
        | baseException name => trivial
        | _ => exact hfinish _
    · trivial

/-- **The outline of the deliveries is sound.** -/
theorem sc04Outline_sound (platform : SC04Platform) :
    (sc04Outline platform).Sound (sc04System platform) where
  refl _ _ _ _ h := h
  trans _ _ _ _ hab hbc d i h := hbc d i (hab d i h)
  post _ _ _ _ _ _ _ _ := trivial
  start pid k s _ := executeDocuments_outline k.taskId k.redelivered
  act pid l i s hinv hpre _ := by
    have hc : SC04Change platform s (some (pid, l)) (SC04State.sem platform pid l i s).2 :=
      sem_sc04Change pid l i
    have hp : ∀ pid' l', some (pid, l) = some (pid', l') → sc04Pre pid' l' s := by
      rintro _ _ ⟨⟩
      exact hpre
    refine ⟨hc.kept hinv hp, fun q hq => hc.rely hp ?_⟩
    rintro _ _ ⟨⟩ rfl
    exact hq rfl
  crash pid s hinv _ := ⟨hinv, fun _ _ _ _ h => h⟩
  env e s hinv _ := by
    have hc : SC04Change platform s none (s.handle platform.settings e) := event_sc04Change e
    refine ⟨hc.kept hinv ?_, fun q _ => hc.rely ?_ ?_⟩
    · rintro _ _ ⟨⟩
    · rintro _ _ ⟨⟩
    · rintro _ _ ⟨⟩

end Outline

/-- A run that nothing has happened to: its documents have no attempt, review or decision. -/
structure SC04State.Fresh (s : SC04State) : Prop where
  attempts : s.attempts = []
  owners : ∀ i, s.owners i = none
  documents : ∀ x ∈ s.documents, x.review = none ∧ x.decision = none

theorem SC04State.Fresh.kept {s : SC04State} (h : s.Fresh) (threshold : ℚ) :
    ClassificationKept threshold s := by
  refine ⟨fun d => ?_, fun i a ha => ?_, fun i _ => h.owners i, fun d x hx => ?_⟩
  · simp [SC04State.attemptsOf, h.attempts]
  · rw [h.attempts] at ha
    cases ha
  · obtain ⟨y, hy, rfl⟩ := Option.map_eq_some_iff.1 hx
    obtain ⟨hreview, hdecision⟩ := h.documents y (List.mem_of_getElem? hy)
    rw [hreview, hdecision]
    refine ⟨fun r hr => ?_, fun z hz _ => ?_, fun z hz _ => ?_⟩
    · cases hr
    · cases hz
    · cases hz

section Frozen

/-- A review keeps its attempt and its reason, and a decision stays as it is. -/
structure RefsGrow (p p' : Option DocumentReview × Option AttemptDecision) : Prop where
  review : ∀ r, p.1 = some r → ∃ r', p'.1 = some r' ∧
    r'.suggestedAttempt = r.suggestedAttempt ∧ r'.reason = r.reason
  decision : ∀ y, p.2 = some y → p'.2 = some y

/-- What is ended stays as it is, and so does what refers to it. -/
structure Grows (s s' : SC04State) : Prop where
  ended : ∀ d i st a, s.Ended d i st a → s'.Ended d i st a
  refs : ∀ d p, s.refs d = some p → ∃ p', s'.refs d = some p' ∧ RefsGrow p p'

theorem RefsGrow.refl (p : Option DocumentReview × Option AttemptDecision) : RefsGrow p p :=
  ⟨fun r hr => ⟨r, hr, rfl, rfl⟩, fun _ hy => hy⟩

theorem RefsGrow.trans {p q r : Option DocumentReview × Option AttemptDecision}
    (h : RefsGrow p q) (h' : RefsGrow q r) : RefsGrow p r := by
  refine ⟨fun x hx => ?_, fun y hy => h'.decision y (h.decision y hy)⟩
  obtain ⟨x', hx', hattempt, hreason⟩ := h.review x hx
  obtain ⟨x'', hx'', hattempt', hreason'⟩ := h'.review x' hx'
  exact ⟨x'', hx'', hattempt'.trans hattempt, hreason'.trans hreason⟩

theorem Grows.refl (s : SC04State) : Grows s s :=
  ⟨fun _ _ _ _ h => h, fun _ p hp => ⟨p, hp, .refl p⟩⟩

theorem Grows.trans {s t u : SC04State} (h : Grows s t) (h' : Grows t u) : Grows s u := by
  refine ⟨fun d i st a ha => h'.ended d i st a (h.ended d i st a ha), fun d p hp => ?_⟩
  obtain ⟨q, hq, hpq⟩ := h.refs d p hp
  obtain ⟨r, hr, hqr⟩ := h'.refs d q hq
  exact ⟨r, hr, hpq.trans hqr⟩

variable {platform : SC04Platform} {s s' : SC04State}

theorem SameRefs.grow (h : SameRefs s s') (d : DocumentId)
    (p : Option DocumentReview × Option AttemptDecision) (hp : s.refs d = some p) :
    ∃ p', s'.refs d = some p' ∧ RefsGrow p p' := by
  rcases h d with hsame | ⟨hnone, -⟩
  · exact ⟨p, hsame.trans hp, .refl p⟩
  · rw [hnone] at hp
    cases hp

/-- An update of one document that its review and its decision survive. -/
theorem setDocument_grow (d : DocumentId) (f : SC04Document → SC04Document)
    (hf : ∀ x, s.documents[d]? = some x →
      RefsGrow (x.review, x.decision) ((f x).review, (f x).decision)) (d' : DocumentId)
    (p : Option DocumentReview × Option AttemptDecision) (hp : s.refs d' = some p) :
    ∃ p', (s.setDocument d f).refs d' = some p' ∧ RefsGrow p p' := by
  obtain ⟨x, hx, rfl⟩ := Option.map_eq_some_iff.1 hp
  refine ⟨_, by rw [refs_setDocument, hx, Option.map_some], ?_⟩
  split
  · next heq => exact hf x (heq ▸ hx)
  · exact .refl _

/-- A review that is there is not opened again. -/
theorem openReview_grow (r : DocumentReview) (review : Option DocumentReview)
    (decision : Option AttemptDecision) :
    RefsGrow (review, decision) (review.or (some r), decision) := by
  refine ⟨fun r' hr' => ⟨r', ?_, rfl, rfl⟩, fun _ hy => hy⟩
  rw [show review = some r' from hr', Option.some_or]

/-- **One move leaves what a review or a decision refers to.** -/
theorem SC04Change.grows {who : Option (ℕ × SC04Label)} (hc : SC04Change platform s who s')
    (h : ClassificationKept platform.threshold s)
    (hpre : ∀ pid l, who = some (pid, l) → sc04Pre pid l s) : Grows s s' := by
  cases hc with
  | same _ attempts owners refs =>
    exact ⟨fun d i st a ha => ⟨attempts ▸ ha.row, ha.document, ha.status, owners ▸ ha.owner⟩,
      refs.grow⟩
  | interrupted _ message now attempts owners refs =>
    exact ⟨fun d i st a ha => interrupt_ended h attempts owners ha, refs.grow⟩
  | created pid d taskId text =>
    refine ⟨fun d' i st a ha => ?_, fun d' p hp => ⟨p, hp, .refl p⟩⟩
    have hlt := (List.getElem?_eq_some_iff.1 ha.row).1
    refine ⟨Rows.append_some ha.row, ha.document, ha.status, ?_⟩
    show Function.update s.owners s.attempts.length (some pid) i = none
    rw [Function.update_of_ne (Nat.ne_of_lt hlt), ha.owner]
  | classifierFailed pid d taskId i e now =>
    refine ⟨fun d' j st a ha => ?_, setDocument_grow (s := s.writeAttempt i (refused e now)) d _
      fun x _ => openReview_grow _ x.review x.decision⟩
    have hw := write_ended (f := refused e now) (hpre pid _ rfl) ha
    exact ⟨hw.row, hw.document, hw.status, hw.owner⟩
  | unexpectedFailed pid taskId i now =>
    obtain ⟨d', hown⟩ := hpre pid _ rfl
    exact ⟨fun d j st a ha => write_ended hown ha, fun d p hp => ⟨p, hp, .refl p⟩⟩
  | decided pid d taskId i prediction exact_ ambiguous now hdecide =>
    obtain ⟨f, g, rfl, hfg, hcases⟩ := decide_document_cases hdecide
    refine ⟨fun d' j st a ha => ?_, setDocument_grow (s := s.writeAttempt i
      (completed prediction (s.predictedClient prediction) now)) d f fun x hx => ?_⟩
    · have hw := write_ended (f := completed prediction (s.predictedClient prediction) now)
        (hpre pid _ rfl).1 ha
      exact ⟨hw.row, hw.document, hw.status, hw.owner⟩
    · rw [hfg]
      rcases hcases with ⟨reason, -, hg⟩ | ⟨decision, -, -, -, -, -, -, -, hfree, hg⟩
      · rw [hg]
        exact openReview_grow _ x.review x.decision
      · rw [hg]
        refine ⟨fun r hr => ⟨r, hr, rfl, rfl⟩, fun y hy => ?_⟩
        rw [show x.decision = none from hfree x hx] at hy
        cases hy
  | resolved d documentType client =>
    unfold SC04State.resolveReview
    split
    · exact .refl s
    · next review hreview =>
      split
      · exact .refl s
      · next hfree =>
        refine ⟨fun d' i st a ha => ⟨ha.row, ha.document, ha.status, ha.owner⟩,
          setDocument_grow d _ fun x hx => ?_⟩
        simp only [not_or, not_not] at hfree
        rw [hx] at hreview hfree
        refine ⟨fun r hr => ?_, fun y hy => ?_⟩
        · obtain rfl := Option.some.inj (hr.symm.trans hreview)
          exact ⟨_, rfl, rfl, rfl⟩
        · have hnone := hfree.2.2.2
          rw [Option.all_some, show x.decision = some y from hy] at hnone
          cases hnone

/-- What a move of the system does to what is settled. -/
theorem move_grows {m : Move SC04Label SC04Fate SC04Event}
    (h : (sc04Outline platform).Knows m s) : Grows s ((sc04System platform).after m s) := by
  cases m with
  | act pid l i =>
    refine (sem_sc04Change pid l i).grows h.1 ?_
    rintro _ _ ⟨⟩
    exact h.2 pid l i rfl
  | crash pid => exact .refl s
  | env e =>
    refine (event_sc04Change e).grows h.1 ?_
    rintro _ _ ⟨⟩

/-- The outline of the deliveries holds after every run. -/
theorem sc04_holds (hs : s.Fresh)
    (xs : List (Choice SC04Fate SC04Process SC04Event)) :
    (sc04Outline platform).Holds (sc04System platform)
      ((sc04System platform).run (Config.idle s) xs) :=
  Outline.Holds.run (sc04Outline_sound platform)
    (Outline.holds_idle _ _ (hs.kept platform.threshold))
    (System.RunOk.of_forall (fun _ _ => trivial) xs _)

theorem run_grows (hs : s.Fresh) (xs ys : List (Choice SC04Fate SC04Process SC04Event)) :
    Grows ((sc04System platform).run (Config.idle s) xs).shared
      ((sc04System platform).run (Config.idle s) (xs ++ ys)).shared := by
  rw [System.run_append]
  exact (sc04Outline_sound platform).shared_inv (fun _ _ => True) (fun _ _ _ => trivial)
    (I := Grows ((sc04System platform).run (Config.idle s) xs).shared)
    (fun m t ht hknows _ => ht.trans (move_grows hknows)) (sc04_holds hs xs) (.refl _)
    (System.RunOk.of_forall (fun _ _ => trivial) ys _)

end Frozen

/-- **The attempts of a run, and what refers to them, after every run.** The attempts of a document
are numbered from one, and each has an end exactly when it is no longer processing, a prediction
exactly when it succeeded, and a valid one. A review refers to an attempt of its document that ended
with the outcome its reason says. What was decided without a person is what a succeeded attempt
predicted, without doubt; and what a person decided refers to the attempt of the review. -/
theorem run_attempts (platform : SC04Platform) {s : SC04State} (hs : s.Fresh)
    (xs : List (Choice SC04Fate SC04Process SC04Event)) {s' : SC04State}
    (hs' : s' = ((sc04System platform).run (Config.idle s) xs).shared) {d : DocumentId}
    {x : SC04Document} (hx : s'.documents[d]? = some x) :
    (s'.attemptsOf d).map (·.sequence) = List.range' 1 (s'.attemptsOf d).length ∧
      (∀ a ∈ s'.attemptsOf d, a.Consistent) ∧
      (∀ r, x.review = some r → ∃ a, s'.attempts[r.suggestedAttempt]? = some a ∧ a.document = d ∧
        a.status = r.reason.attemptStatus) ∧
      (∀ y, x.decision = some y → y.origin = .automatic → ∃ a,
        s'.attempts[y.classificationAttempt]? = some a ∧ a.document = d ∧ a.status = .succeeded ∧
        Accepted platform.threshold y a) ∧
      ∀ y, x.decision = some y → y.origin = .humanReview → ∃ r, x.review = some r ∧
        r.status = .completed ∧ y.classificationAttempt = r.suggestedAttempt := by
  have hkept : ClassificationKept platform.threshold s' := hs' ▸ (sc04_holds hs xs).1
  have hrefs := hkept.refs d (x.review, x.decision) (by rw [SC04State.refs, hx, Option.map_some])
  refine ⟨hkept.numbered d, fun a ha => ?_, fun r hr => ?_, fun y hy ho => ?_, hrefs.human⟩
  · obtain ⟨i, hi⟩ := List.getElem?_of_mem (List.mem_filter.1 ha).1
    exact (hkept.rows i a hi).1
  · obtain ⟨a, ha⟩ := hrefs.review r hr
    exact ⟨a, ha.row, ha.document, ha.status⟩
  · obtain ⟨a, ha, haccepted⟩ := hrefs.automatic y hy ho
    exact ⟨a, ha.row, ha.document, ha.status, haccepted⟩

/-- The settings, with a classifier that answers nothing. -/
def silentPlatform : SC04Platform where
  settings := {}
  threshold := 9 / 10
  configured := true
  unicode := ⟨fun c => [c], id, fun _ => false⟩
  loads := fun _ => none

/-- A queued run of one document. -/
def oneDocumentRun : SC04State where
  run := { module := .sc04, status := .queued, taskId := some 1, createdAt := 0 }
  documents := [{}]
  clients := [{ code := "acme", name := "Acme", documentNumber := "12345678000190" }]

theorem oneDocumentRun_fresh : oneDocumentRun.Fresh :=
  ⟨rfl, fun _ => rfl, by simp [oneDocumentRun]⟩

/-- The first worker is taken for dead while it classifies, and then its classifier fails. -/
def resumedRun : List (Choice SC04Fate SC04Process SC04Event) :=
  .start ⟨.uuid 1, false⟩ :: List.replicate 9 (.act 0 {}) ++
    [.start ⟨.uuid 1, true⟩, .act 1 { now := 5 }, .act 0 {}, .act 0 { now := 7 }]

/-- What `resumedRun` leaves of its document. -/
def reviewedDocument : SC04Document where
  status := .awaitingReview
  review := some ⟨0, .classifierUnavailable, .pending⟩
  lastError := "O classificador está temporariamente indisponível."

theorem run_attempts_resumed : ∃ a,
    ((sc04System silentPlatform).run (Config.idle oneDocumentRun) resumedRun).shared.attempts[0]? =
      some a ∧ a.document = 0 ∧ a.status = .failed :=
  (run_attempts silentPlatform oneDocumentRun_fresh resumedRun rfl (d := 0)
    (x := reviewedDocument) rfl).2.2.1 ⟨0, .classifierUnavailable, .pending⟩ rfl

/-- **What a review or a decision refers to never changes again**, whatever follows: the review
keeps its attempt and its reason, the decision stays, and the row of the attempt too. -/
theorem run_frozen (platform : SC04Platform) {s : SC04State} (hs : s.Fresh)
    (xs ys : List (Choice SC04Fate SC04Process SC04Event)) {t u : SC04State}
    (ht : t = ((sc04System platform).run (Config.idle s) xs).shared)
    (hu : u = ((sc04System platform).run (Config.idle s) (xs ++ ys)).shared) {d : DocumentId}
    {x : SC04Document} (hx : t.documents[d]? = some x) :
    ∃ y, u.documents[d]? = some y ∧
      (∀ r, x.review = some r → ∃ r', y.review = some r' ∧
        r'.suggestedAttempt = r.suggestedAttempt ∧ r'.reason = r.reason ∧
        u.attempts[r.suggestedAttempt]? = t.attempts[r.suggestedAttempt]?) ∧
      ∀ z, x.decision = some z → y.decision = some z ∧
        u.attempts[z.classificationAttempt]? = t.attempts[z.classificationAttempt]? := by
  have hkept : ClassificationKept platform.threshold t := ht ▸ (sc04_holds hs xs).1
  have hgrows : Grows t u := ht ▸ hu ▸ run_grows hs xs ys
  have hrefsx : t.refs d = some (x.review, x.decision) := by rw [SC04State.refs, hx, Option.map_some]
  have hrefs := hkept.refs d _ hrefsx
  obtain ⟨p, hp, hgrow⟩ := hgrows.refs d _ hrefsx
  obtain ⟨y, hy, rfl⟩ := Option.map_eq_some_iff.1 hp
  refine ⟨y, hy, fun r hr => ?_, fun z hz => ⟨hgrow.decision z hz, ?_⟩⟩
  · obtain ⟨r', hr', hattempt, hreason⟩ := hgrow.review r hr
    obtain ⟨a, ha⟩ := hrefs.review r hr
    exact ⟨r', hr', hattempt, hreason, by rw [(hgrows.ended _ _ _ _ ha).row, ha.row]⟩
  · cases horigin : z.origin with
    | automatic =>
      obtain ⟨a, ha, -⟩ := hrefs.automatic z hz horigin
      rw [(hgrows.ended _ _ _ _ ha).row, ha.row]
    | humanReview =>
      obtain ⟨r, hr, -, hattempt⟩ := hrefs.human z hz horigin
      obtain ⟨a, ha⟩ := hrefs.review r hr
      rw [hattempt, (hgrows.ended _ _ _ _ ha).row, ha.row]

/-- The second worker ends the run, and a person decides. -/
def decidedRun : List (Choice SC04Fate SC04Process SC04Event) :=
  List.replicate 5 (.act 1 {}) ++
    [.env (.resolveReview 0 .invoice
      { code := "acme", name := "Acme", documentNumber := "12345678000190" })]

theorem run_frozen_decided : ∃ y,
    ((sc04System silentPlatform).run (Config.idle oneDocumentRun)
      (resumedRun ++ decidedRun)).shared.documents[0]? = some y ∧
    ∃ r', y.review = some r' ∧ r'.suggestedAttempt = 0 ∧ r'.reason = .classifierUnavailable := by
  obtain ⟨y, hy, hreview, -⟩ := run_frozen silentPlatform oneDocumentRun_fresh resumedRun decidedRun
    rfl rfl (d := 0) (x := reviewedDocument) rfl
  obtain ⟨r', hr', hattempt, hreason, -⟩ := hreview ⟨0, .classifierUnavailable, .pending⟩ rfl
  exact ⟨y, hy, r', hr', hattempt, hreason⟩

end SheepContabil
