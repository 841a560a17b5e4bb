import SheepContabil.Proof.Sc04Classifier
import Mathlib.Algebra.Order.Ring.Rat

/-!
# SC-04: when a document is routed without a review

* `ExactMatch`, `AmbiguousMatch`: what `_exact_client_match` looks for in the catalogue.
* `AutomaticPolicy`: the policy of an automatic decision.
* `FollowsPolicy`: an automatic decision exactly under the policy, and one pending review otherwise.
* `validateResponse_overflow`: which responses have a confidence that `float` cannot hold.
* `processResponse_policy_iff`: **a document follows the policy** unless its response has such a
  confidence, or is valid with a text that PostgreSQL cannot hold.
-/

namespace SheepContabil

open Py

section Matches

variable (unicode : UnicodeData) (text : String) (clients : List FiscalClient)

/-- The clients whose document number is in the text. -/
def numberedClients : List FiscalClient :=
  clients.filter fun client => (documentNumbersIn text).contains client.documentNumber

/-- The clients whose name or alias is in the text. -/
def namedClients : List FiscalClient := clients.filter (isNamed unicode text)

/-- The only client whose number is in the text, or without one the only client that is named. -/
def ExactMatch (c : FiscalClient) : Prop :=
  numberedClients text clients = [c] ∨
    (numberedClients text clients = [] ∧ namedClients unicode text clients = [c])

/-- Several clients have their number in the text, or without one several clients are named. -/
def AmbiguousMatch : Prop :=
  1 < (numberedClients text clients).length ∨
    (numberedClients text clients = [] ∧ 1 < (namedClients unicode text clients).length)

variable {unicode text clients}

theorem ExactMatch.unique {c c' : FiscalClient} (h : ExactMatch unicode text clients c)
    (h' : ExactMatch unicode text clients c') : c = c' := by
  rcases h with h | ⟨h0, h⟩ <;> rcases h' with h' | ⟨h0', h'⟩ <;> simp_all

/-- **`_exact_client_match`**: the match, an ambiguity, or neither. -/
theorem exactClientMatch_cases (unicode : UnicodeData) (text : String) (clients : List FiscalClient) :
    (∃ c, exactClientMatch unicode text clients = (some c, false) ∧
      ExactMatch unicode text clients c ∧ ¬ AmbiguousMatch unicode text clients) ∨
    (exactClientMatch unicode text clients = (none, true) ∧ AmbiguousMatch unicode text clients) ∨
    (exactClientMatch unicode text clients = (none, false) ∧
      ¬ AmbiguousMatch unicode text clients ∧ ∀ c, ¬ ExactMatch unicode text clients c) := by
  have hnumbered : (clients.filter fun client => (documentNumbersIn text).contains
      client.documentNumber) = numberedClients text clients := rfl
  have hnamed : clients.filter (isNamed unicode text) = namedClients unicode text clients := rfl
  rw [exactClientMatch, hnumbered, hnamed]
  unfold ExactMatch AmbiguousMatch
  rcases numberedClients text clients with _ | ⟨c, _ | ⟨c', rest⟩⟩
  · rcases namedClients unicode text clients with _ | ⟨c, _ | ⟨c', rest⟩⟩
    · exact .inr (.inr ⟨rfl, by simp, by simp⟩)
    · exact .inl ⟨c, rfl, .inr ⟨rfl, rfl⟩, by simp⟩
    · exact .inr (.inl ⟨by simp, .inr ⟨rfl, by simp⟩⟩)
  · exact .inl ⟨c, rfl, .inl rfl, by simp⟩
  · exact .inr (.inl ⟨rfl, .inl (by simp)⟩)

end Matches

section Policy

/-- **The policy of an automatic decision** for a client. `predicted` is the active client of the
prediction. -/
structure AutomaticPolicy (unicode : UnicodeData) (threshold : ℚ) (text : String)
    (clients : List FiscalClient) (prediction : ClassificationPrediction)
    (predicted : Option FiscalClient) (c : FiscalClient) : Prop where
  exact : ¬ AmbiguousMatch unicode text clients
  unambiguous : prediction.isAmbiguous = false
  type : prediction.documentType ≠ .unknown ∧ prediction.documentType ≠ .other
  typeConfidence : threshold ≤ prediction.typeConfidence
  client : (ExactMatch unicode text clients c ∧ threshold ≤ 1) ∨
    ((∀ c', ¬ ExactMatch unicode text clients c') ∧ predicted = some c ∧
      threshold ≤ prediction.clientConfidence)

theorem reviewReason_none {threshold : ℚ} {t : DocumentType} {typeConfidence clientConfidence : ℚ}
    {client : Option FiscalClient} {isAmbiguous : Bool} :
    reviewReason threshold t typeConfidence client clientConfidence isAmbiguous = none ↔
      isAmbiguous = false ∧ (t ≠ .unknown ∧ t ≠ .other) ∧ client.isSome = true ∧
        threshold ≤ typeConfidence ∧ threshold ≤ clientConfidence := by
  unfold reviewReason
  split
  · next h => simp [h]
  · next h =>
    split
    · next ht =>
      simp only [reduceCtorEq, false_iff]
      rintro ⟨-, ⟨h1, h2⟩, -⟩
      exact ht.elim h1 h2
    · next ht =>
      split
      · next hc =>
        simp only [reduceCtorEq, false_iff]
        rintro ⟨-, -, hsome, -⟩
        cases client <;> simp_all
      · next hc =>
        split
        · next hlow =>
          simp only [reduceCtorEq, false_iff]
          rintro ⟨-, -, -, h1, h2⟩
          rcases hlow with hlow | hlow
          · exact absurd h1 (not_le.2 hlow)
          · exact absurd h2 (not_le.2 hlow)
        · next hlow =>
          simp only [not_or, not_lt] at hlow ht
          simp only [true_iff]
          refine ⟨by simpa using h, ht, ?_, hlow.1, hlow.2⟩
          cases client <;> simp_all

/-- A claimed document has no review, decision or route. -/
def claimedRows : DocumentRows := { status := .processing }

/-- **The rows of a document after its classification**: one automatic decision with its route and no
review, or one pending review and no decision or route. -/
structure SettledRows (d : ClassifiedDocument) : Prop where
  decided : d.decision.isSome = true → d.rows.decisions = [.automatic] ∧ d.rows.reviews = [] ∧
    d.rows.routes = [{ decision := 0 }]
  reviewed : d.decision = none → d.rows.reviews = [.pending] ∧ d.rows.decisions = [] ∧
    d.rows.routes = []

/-- The transaction of a prediction that the columns do not take. -/
theorem applyPrediction_refused {rows : DocumentRows} {threshold : ℚ} {exact : Option FiscalClient}
    {ambiguousAlias : Bool} {prediction : ProviderPrediction} {predicted : Option FiscalClient}
    (h : prediction.isStorable = false) :
    applyPrediction rows threshold exact ambiguousAlias prediction predicted = none := by
  rw [applyPrediction, h]
  rfl

/-- **The transaction of a prediction**: it opens a review, or decides for the final client. -/
theorem applyPrediction_cases (threshold : ℚ) (exact : Option FiscalClient) (ambiguousAlias : Bool)
    {prediction : ProviderPrediction} (hstorable : prediction.isStorable = true)
    (predicted : Option FiscalClient) :
    ∃ d, applyPrediction claimedRows threshold exact ambiguousAlias prediction predicted = some d ∧
      SettledRows d ∧
      ∀ decision, d.decision = some decision ↔
        reviewReason threshold prediction.validated.documentType prediction.validated.typeConfidence
          (exact.or predicted) (if exact.isSome then 1 else prediction.validated.clientConfidence)
          (ambiguousAlias || prediction.validated.isAmbiguous) = none ∧
        exact.or predicted = some decision.client ∧
          decision = ⟨prediction.validated.documentType, decision.client, .automatic⟩ := by
  unfold applyPrediction
  rw [hstorable]
  simp only [Bool.not_true, Bool.false_eq_true, if_false]
  cases hreason : reviewReason threshold prediction.validated.documentType
      prediction.validated.typeConfidence (exact.or predicted)
      (if exact.isSome then 1 else prediction.validated.clientConfidence)
      (ambiguousAlias || prediction.validated.isAmbiguous) with
  | some reason => exact ⟨_, rfl, ⟨by simp, fun _ => ⟨rfl, rfl, rfl⟩⟩, by simp⟩
  | none =>
    have hsome := (reviewReason_none.1 hreason).2.2.1
    cases hclient : exact.or predicted with
    | none => rw [hclient] at hsome; cases hsome
    | some c =>
      refine ⟨_, rfl, ⟨fun _ => ⟨rfl, rfl, rfl⟩, by simp⟩, fun decision => ?_⟩
      simp only [Option.some.injEq, true_and]
      constructor
      · rintro rfl; exact ⟨rfl, rfl⟩
      · rintro ⟨rfl, h⟩; exact h.symm

section Response

variable (unicode : UnicodeData) (threshold : ℚ) (text : String) (clients : List FiscalClient)
  (activeClient : String → Option FiscalClient) (value : PyObject)

/-- **The automatic routing policy**, of what became of a document. -/
structure FollowsPolicy (d : ClassifiedDocument) : Prop where
  rows : SettledRows d
  decision : ∀ decision, d.decision = some decision ↔
    ∃ prediction, validateResponse value (clients.map (·.code)) = .ok prediction ∧
      AutomaticPolicy unicode threshold text clients prediction
        (prediction.clientCode.bind fun code => if code = "" then none else activeClient code)
        decision.client ∧
      decision = ⟨prediction.documentType, decision.client, .automatic⟩

/-- A confidence of the response is an integer that `float` cannot hold, where `_validate_response`
reads it: behind the fields, the type and the confidence that it reads before. -/
inductive ReadsOverflow : PyObject → Prop
  | typeConfidence (kvs : List (Option String × PyObject)) (s : String)
    (hfields : hasResponseFields kvs = true) (hs : field kvs "document_type" = .str s)
    (htype : s ∈ DocumentType.values.map (·.1))
    (h : OverflowsFloat (field kvs "type_confidence")) : ReadsOverflow (.mapping kvs)
  | clientConfidence (kvs : List (Option String × PyObject)) (s : String)
    (hfields : hasResponseFields kvs = true) (hs : field kvs "document_type" = .str s)
    (htype : s ∈ DocumentType.values.map (·.1))
    (hrange : (JsonSchema.Schema.number 0 1).conforms PyObject.view (field kvs "type_confidence") =
      true)
    (h : OverflowsFloat (field kvs "client_confidence")) : ReadsOverflow (.mapping kvs)

/-- The texts of the response that are written down: no evidence has a U+0000, and the columns take
the id of the response and the model. -/
structure StorableResponse (value : PyObject) (providerResponseId model : String) : Prop where
  evidence : ∀ items s, evidenceOf value = .list items → .str s ∈ items → hasNul s = false
  providerResponseId : fitsColumn providerResponseId = true
  model : fitsColumn model = true

variable {unicode threshold text clients activeClient value}

theorem bind_overflow {α β : Type} {x : Except ResponseError α} {f : α → Except ResponseError β} :
    (x >>= f) = .error .overflow ↔ x = .error .overflow ∨ ∃ a, x = .ok a ∧ f a = .error .overflow := by
  cases x with
  | error e => simp [bind, Except.bind]
  | ok a => simp [bind, Except.bind]

theorem readType_ok_iff {x : PyObject} {t : DocumentType} : readType x = .ok t →
    ∃ s, x = .str s ∧ s ∈ DocumentType.values.map (·.1) := by
  intro h
  cases x with
  | str s =>
    refine ⟨s, rfl, (lookup_isSome DocumentType.values s).1 ?_⟩
    simp only [readType] at h
    cases hs : DocumentType.values.lookup s with
    | none => rw [hs] at h; cases h
    | some t' => rfl
  | _ => cases h

theorem readType_str {s : String} (h : s ∈ DocumentType.values.map (·.1)) :
    ∃ t, readType (.str s) = .ok t := by
  obtain ⟨t, ht⟩ := Option.isSome_iff_exists.1 ((lookup_isSome DocumentType.values s).2 h)
  exact ⟨t, by simp only [readType, ht]⟩

theorem readType_ne_overflow (x : PyObject) : readType x ≠ .error .overflow := by
  cases x with
  | str s => simp only [readType]; cases DocumentType.values.lookup s <;> simp
  | _ => simp [readType]

theorem readClient_ne_overflow (codes : List String) (x : PyObject) :
    readClient codes x ≠ .error .overflow := by
  cases x with
  | str s => simp only [readClient]; split <;> simp
  | _ => simp [readClient]

theorem readAmbiguous_ne_overflow (x : PyObject) : readAmbiguous x ≠ .error .overflow := by
  cases x <;> simp [readAmbiguous]

theorem normalizedEvidence_ne_overflow : ∀ items : List PyObject,
    normalizedEvidence items ≠ .error .overflow := by
  intro items
  induction items with
  | nil => simp [normalizedEvidence]
  | cons x rest ih =>
    cases x with
    | str s =>
      simp only [normalizedEvidence]
      split
      · simp
      · rw [ne_eq, bind_overflow, not_or]
        exact ⟨ih, by simp⟩
    | _ => simp [normalizedEvidence]

theorem readEvidence_ne_overflow (x : PyObject) : readEvidence x ≠ .error .overflow := by
  cases x with
  | list items =>
    simp only [readEvidence]
    split
    · simp
    · exact normalizedEvidence_ne_overflow items
  | _ => simp [readEvidence]

/-- **Which responses `float` fails.** -/
theorem validateResponse_overflow (value : PyObject) (clientCodes : List String) :
    validateResponse value clientCodes = .error .overflow ↔ ReadsOverflow value := by
  cases value with
  | mapping kvs =>
    rw [validateResponse_eq]
    cases hfields : hasResponseFields kvs with
    | false =>
      simp only [Bool.not_false, if_true, Except.error.injEq, reduceCtorEq, false_iff]
      rintro (⟨_, _, h, _⟩ | ⟨_, _, h, _⟩) <;> exact absurd (hfields.symm.trans h) (by simp)
    | true =>
      simp only [Bool.not_true, Bool.false_eq_true, if_false, bind_overflow, readType_ne_overflow,
        readClient_ne_overflow, readAmbiguous_ne_overflow, readEvidence_ne_overflow,
        confidence_overflow, reduceCtorEq, false_or, and_false, exists_false, or_false]
      constructor
      · rintro ⟨t, ht, h⟩
        obtain ⟨s, hs, hmem⟩ := readType_ok_iff ht
        rcases h with h | ⟨q, hq, h⟩
        · exact .typeConfidence kvs s hfields hs hmem h
        · exact .clientConfidence kvs s hfields hs hmem (confidence_ok.1 ⟨q, hq⟩) h
      · rintro (⟨_, s, -, hs, hmem, h⟩ | ⟨_, s, -, hs, hmem, hrange, h⟩)
        · obtain ⟨t, ht⟩ := readType_str hmem
          exact ⟨t, by rw [hs]; exact ht, .inl h⟩
        · obtain ⟨t, ht⟩ := readType_str hmem
          obtain ⟨q, hq⟩ := confidence_ok.2 hrange
          exact ⟨t, by rw [hs]; exact ht, .inr ⟨q, hq, h⟩⟩
  | _ =>
    simp only [validateResponse, Except.error.injEq, reduceCtorEq, false_iff]
    rintro ⟨⟩

/-- A text without its blanks has a U+0000 exactly when it has one. -/
theorem hasNul_strip (s : String) : hasNul (strip s) = hasNul s := by
  rw [hasNul, hasNul, Bool.eq_iff_iff, List.contains_iff_mem, List.contains_iff_mem, strip,
    String.toList_ofList, mem_stripOf (by decide)]

/-- What is stored of a valid response is storable when the response is. -/
theorem isStorable_iff {codes : List String} {validated : ClassificationPrediction}
    (h : validateResponse value codes = .ok validated) (providerResponseId model : String) :
    (ProviderPrediction.mk validated providerResponseId model).isStorable = true ↔
      StorableResponse value providerResponseId model := by
  cases value with
  | mapping kvs =>
    rw [validateResponse_eq] at h
    split at h
    · cases h
    · simp only [bind_eq_ok] at h
      obtain ⟨_, -, _, -, _, -, _, -, _, -, evidence, he, heq⟩ := h
      obtain rfl := Except.ok.inj heq
      obtain ⟨items, hitems, hnormal⟩ : ∃ items, field kvs "evidence" = .list items ∧
          normalizedEvidence items = .ok evidence := by
        unfold readEvidence at he
        split at he
        · next items hitems =>
          split at he
          · cases he
          · exact ⟨items, hitems, he⟩
        · cases he
      obtain ⟨texts, rfl, rfl, -⟩ := normalizedEvidence_eq hnormal
      rw [ProviderPrediction.isStorable, Bool.and_eq_true, Bool.and_eq_true, List.all_eq_true]
      simp only [List.forall_mem_map, hasNul_strip, Bool.not_eq_true']
      constructor
      · rintro ⟨⟨htexts, hid⟩, hmodel⟩
        refine ⟨fun items s hl hs => ?_, hid, hmodel⟩
        obtain rfl : texts.map PyObject.str = items := PyObject.list.inj (hitems.symm.trans hl)
        obtain ⟨s', hs', heq⟩ := List.mem_map.1 hs
        obtain rfl := PyObject.str.inj heq
        exact htexts s' hs'
      · rintro ⟨htexts, hid, hmodel⟩
        exact ⟨⟨fun s hs => htexts _ s hitems (List.mem_map_of_mem hs), hid⟩, hmodel⟩
  | _ => cases h

theorem processResponse_ok {rows : DocumentRows} {validated : ClassificationPrediction}
    (h : validateResponse value (clients.map (·.code)) = .ok validated)
    (providerResponseId model : String) :
    processResponse unicode threshold rows text clients activeClient providerResponseId model value =
      (applyPrediction rows threshold (exactClientMatch unicode text clients).1
        (exactClientMatch unicode text clients).2 { validated, providerResponseId, model }
        (validated.clientCode.bind fun code => if code = "" then none else activeClient code)).getD
        (markFailed rows) := by
  unfold processResponse
  rw [h]

/-- A document that failed has neither a decision nor a review. -/
theorem not_followsPolicy_markFailed :
    ¬ FollowsPolicy unicode threshold text clients activeClient value (markFailed claimedRows) := by
  intro h
  have := (h.rows.reviewed rfl).1
  cases this

/-- **When a document follows the automatic routing policy**: exactly when `float` holds the
confidences that are read, and a response that is valid can be stored. -/
theorem processResponse_policy_iff (unicode : UnicodeData) (threshold : ℚ) (text : String)
    (clients : List FiscalClient) (activeClient : String → Option FiscalClient)
    (providerResponseId model : String) (value : PyObject) :
    FollowsPolicy unicode threshold text clients activeClient value
        (processResponse unicode threshold claimedRows text clients activeClient providerResponseId
          model value) ↔
      ¬ ReadsOverflow value ∧
        ((∃ prediction, validateResponse value (clients.map (·.code)) = .ok prediction) →
          StorableResponse value providerResponseId model) := by
  rw [← validateResponse_overflow value (clients.map (·.code))]
  cases hvalid : validateResponse value (clients.map (·.code)) with
  | error e =>
    unfold processResponse
    rw [hvalid]
    rcases exactClientMatch unicode text clients with ⟨exact, ambiguousAlias⟩
    cases e with
    | overflow => exact iff_of_false not_followsPolicy_markFailed (fun h => h.1 rfl)
    | invalid message =>
      refine iff_of_true ⟨⟨by simp, fun _ => ⟨rfl, rfl, rfl⟩⟩, ?_⟩ ⟨by simp, by simp⟩
      simp [hvalid]
  | ok prediction =>
    rw [processResponse_ok hvalid, ← isStorable_iff hvalid]
    cases hstorable : (ProviderPrediction.mk prediction providerResponseId model).isStorable with
    | false =>
      rw [applyPrediction_refused hstorable]
      exact iff_of_false not_followsPolicy_markFailed fun h => by simp at h
    | true =>
      refine iff_of_true ?_ ⟨by simp, fun _ => rfl⟩
      obtain ⟨d, hd, hrows, hdecision⟩ := applyPrediction_cases threshold
        (exactClientMatch unicode text clients).1 (exactClientMatch unicode text clients).2 hstorable
        (prediction.clientCode.bind fun code => if code = "" then none else activeClient code)
      rw [hd, Option.getD_some]
      refine ⟨hrows, fun decision => (hdecision decision).trans ?_⟩
      simp only [hvalid, Except.ok.injEq, exists_eq_left', reviewReason_none]
      rw [← and_assoc]
      refine and_congr_left fun _ => ?_
      -- the document names one client, several, or none
      rcases exactClientMatch_cases unicode text clients with
        ⟨c, hc, hexact, hclear⟩ | ⟨hc, hambiguous⟩ | ⟨hc, hclear, hnone⟩
      · rw [hc]
        simp only [Option.some_or, Option.isSome_some, if_true, Bool.false_or,
          Option.some.injEq]
        constructor
        · rintro ⟨⟨hunambiguous, htype, -, htc, hcc⟩, rfl⟩
          exact ⟨hclear, hunambiguous, htype, htc, .inl ⟨hexact, hcc⟩⟩
        · rintro ⟨-, hunambiguous, htype, htc, ⟨hexact', hcc⟩ | ⟨hnone, -⟩⟩
          · exact ⟨⟨hunambiguous, htype, trivial, htc, hcc⟩, hexact.unique hexact'⟩
          · exact absurd hexact (hnone c)
      · rw [hc]
        simp only [Bool.true_or, Bool.true_eq_false, false_and, false_iff]
        exact fun h => h.exact hambiguous
      · rw [hc]
        simp only [Option.none_or, Option.isSome_none, Bool.false_eq_true, if_false, Bool.false_or]
        constructor
        · rintro ⟨⟨hunambiguous, htype, -, htc, hcc⟩, hclient⟩
          exact ⟨hclear, hunambiguous, htype, htc, .inr ⟨hnone, hclient, hcc⟩⟩
        · rintro ⟨-, hunambiguous, htype, htc, ⟨hexact, -⟩ | ⟨-, hclient, hcc⟩⟩
          · exact absurd hexact (hnone _)
          · exact ⟨⟨hunambiguous, htype, by rw [hclient]; rfl, htc, hcc⟩, hclient⟩

/-- A valid response whose evidence has a U+0000. -/
def nulResponse : PyObject :=
  .mapping [(some "document_type", .str "invoice"), (some "type_confidence", .int 1),
    (some "client_code", .none), (some "client_confidence", .int 0),
    (some "is_ambiguous", .bool false), (some "evidence", .list [.str "a\x00b"])]

/-- A response with a confidence of 401 digits. -/
def hugeResponse : PyObject :=
  .mapping [(some "document_type", .str "invoice"), (some "type_confidence", .int (10 ^ 400)),
    (some "client_code", .none), (some "client_confidence", .int 0),
    (some "is_ambiguous", .bool false), (some "evidence", .list [.str "total"])]

/-- Characters without a decomposition. -/
def plainUnicode : UnicodeData :=
  { casefold := fun c => [c], nfkd := id, combining := fun _ => false }

/-- **Neither a decision nor a review**: the row of a valid response is rejected, and a confidence is
no `float`. -/
theorem failed_without_review :
    ¬ FollowsPolicy plainUnicode (9 / 10) "" [] (fun _ => none) nulResponse
        (processResponse plainUnicode (9 / 10) claimedRows "" [] (fun _ => none) "r-1" "m" nulResponse) ∧
      ¬ FollowsPolicy plainUnicode (9 / 10) "" [] (fun _ => none) hugeResponse
        (processResponse plainUnicode (9 / 10) claimedRows "" [] (fun _ => none) "r-1" "m"
          hugeResponse) := by
  constructor
  · intro h
    have hd : (processResponse plainUnicode (9 / 10) claimedRows "" [] (fun _ => none) "r-1" "m"
        nulResponse).decision.isNone = true := by decide +kernel
    have hrows := (h.rows.reviewed (Option.isNone_iff_eq_none.1 hd)).1
    revert hrows
    decide +kernel
  · intro h
    have hd : (processResponse plainUnicode (9 / 10) claimedRows "" [] (fun _ => none) "r-1" "m"
        hugeResponse).decision.isNone = true := by decide +kernel
    have hrows := (h.rows.reviewed (Option.isNone_iff_eq_none.1 hd)).1
    revert hrows
    decide +kernel

end Response

end Policy

end SheepContabil
