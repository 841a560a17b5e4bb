import SheepContabil.Spec.Sc04Classifier

/-!
# SC-04: the schema of the request and the validation of the response

The provider is asked to keep a schema, and the response is validated as if it were not. Both
say the same of a value, but for blank evidence, which a schema of this fragment cannot refuse.

* `validateResponse_eq`: `validateResponse`, one reader for each field.
* `validateResponse_iff_conforms`: **the validation accepts what the schema does.**
-/

namespace SheepContabil

open Py JsonSchema

section Readers

/-- `document_type`. -/
def readType : PyObject → Except ResponseError DocumentType
  | .str s => match DocumentType.values.lookup s with
    | some t => .ok t
    | none => .error (.invalid "O classificador retornou um tipo desconhecido.")
  | _ => .error (.invalid "O classificador retornou um tipo desconhecido.")

/-- `client_code`. -/
def readClient (allowedClients : List String) : PyObject → Except ResponseError (Option String)
  | .none => .ok none
  | .str code =>
    if allowedClients.contains code then .ok (some code)
    else .error (.invalid "O classificador retornou um cliente desconhecido.")
  | _ => .error (.invalid "O classificador retornou um cliente desconhecido.")

/-- `is_ambiguous`. -/
def readAmbiguous : PyObject → Except ResponseError Bool
  | .bool b => .ok b
  | _ => .error (.invalid "O classificador retornou ambiguidade inválida.")

/-- `evidence`. -/
def readEvidence : PyObject → Except ResponseError (List String)
  | .list items =>
    if items.isEmpty || items.length > 3 then
      .error (.invalid "O classificador retornou evidências inválidas.")
    else normalizedEvidence items
  | _ => .error (.invalid "O classificador retornou evidências inválidas.")

theorem validateResponse_eq (kvs : List (Option String × PyObject)) (allowedClients : List String) :
    validateResponse (.mapping kvs) allowedClients =
      if !hasResponseFields kvs then .error (.invalid "O classificador retornou campos inesperados.")
      else (do
        let documentType ← readType (field kvs "document_type")
        let typeConfidence ← confidence (field kvs "type_confidence")
        let clientConfidence ← confidence (field kvs "client_confidence")
        let clientCode ← readClient allowedClients (field kvs "client_code")
        let isAmbiguous ← readAmbiguous (field kvs "is_ambiguous")
        let evidence ← readEvidence (field kvs "evidence")
        .ok { documentType, typeConfidence, clientCode, clientConfidence, isAmbiguous, evidence }) := by
  simp only [validateResponse]
  cases hasResponseFields kvs with
  | false => rfl
  | true =>
    simp only [Bool.not_true, Bool.false_eq_true, if_false]
    generalize field kvs "document_type" = documentType
    generalize field kvs "client_code" = clientCode
    generalize field kvs "is_ambiguous" = isAmbiguous
    generalize field kvs "evidence" = evidence
    cases documentType with
    | str s =>
      simp only [readType]
      cases DocumentType.values.lookup s with
      | none => rfl
      | some t =>
        cases confidence (field kvs "type_confidence") with
        | error e => rfl
        | ok q =>
          cases confidence (field kvs "client_confidence") with
          | error e => rfl
          | ok q' =>
            cases clientCode with
            | none =>
              cases isAmbiguous with
              | bool b =>
                cases evidence with
                | list items => simp only [readEvidence]; split <;> rfl
                | _ => rfl
              | _ => rfl
            | str code =>
              simp only [readClient]
              split
              · cases isAmbiguous with
                | bool b =>
                  cases evidence with
                  | list items => simp only [readEvidence]; split <;> rfl
                  | _ => rfl
                | _ => rfl
              · rfl
            | _ => rfl
    | _ => rfl

theorem lookup_isSome {α β : Type} [BEq α] [LawfulBEq α] (kvs : List (α × β)) (k : α) :
    (kvs.lookup k).isSome = true ↔ k ∈ kvs.map (·.1) := by
  rw [List.lookup_isSome_iff, List.mem_map]
  exact exists_congr fun kv => and_congr_right fun _ => by rw [beq_iff_eq, eq_comm]

theorem readType_ok {x : PyObject} : (∃ t, readType x = .ok t) ↔
    (Schema.string (some (DocumentType.values.map (·.1))) none).conforms PyObject.view x = true := by
  rw [conforms_string]
  cases x with
  | str s =>
    have hmem := lookup_isSome DocumentType.values s
    simp only [readType, PyObject.view, View.string.injEq, Option.some.injEq, forall_eq', reduceCtorEq,
      IsEmpty.forall_iff, implies_true, and_true, exists_eq_left', ← hmem]
    cases DocumentType.values.lookup s <;> simp
  | _ => simp only [readType, PyObject.view, reduceCtorEq, exists_false, false_and]

theorem inRange_ne_overflow (q : ℚ) : confidence.inRange q ≠ .error .overflow := by
  unfold confidence.inRange
  split <;> simp

/-- An integer that `float` cannot hold is out of the range. -/
theorem not_mem_range_of_overflows {n : ℤ} (h : floatOverflows n = true) :
    ¬ ((0 : ℚ) ≤ n ∧ (n : ℚ) ≤ 1) := by
  rintro ⟨h0, h1⟩
  have hn0 : (0 : ℤ) ≤ n := by exact_mod_cast h0
  have hn1 : n ≤ 1 := by exact_mod_cast h1
  have hone : n.natAbs ≤ 1 := by omega
  have hlimit : 1 < 2 ^ 1024 - 2 ^ 970 := by decide +kernel
  exact absurd (of_decide_eq_true h) (by omega)

theorem confidence_ok {x : PyObject} : (∃ q, confidence x = .ok q) ↔
    (Schema.number 0 1).conforms PyObject.view x = true := by
  have hrange : ∀ q : ℚ, (∃ q', confidence.inRange q = .ok q') ↔ 0 ≤ q ∧ q ≤ 1 := by
    intro q
    unfold confidence.inRange
    split <;> simp_all
  rw [conforms_number]
  cases x with
  | int n =>
    simp only [confidence, PyObject.view, View.number.injEq, Option.some.injEq, exists_eq_left']
    cases hn : floatOverflows n with
    | true => simpa using not_mem_range_of_overflows hn
    | false => simpa using hrange n
  | float q => cases q <;> simp [confidence, PyObject.view, hrange]
  | _ => simp [confidence, PyObject.view]

/-- An integer that `float` cannot hold. -/
def OverflowsFloat (x : PyObject) : Prop := ∃ n, x = .int n ∧ floatOverflows n = true

theorem confidence_overflow {x : PyObject} : confidence x = .error .overflow ↔ OverflowsFloat x := by
  unfold OverflowsFloat
  cases x with
  | int n =>
    cases hn : floatOverflows n with
    | true => simp [confidence, hn]
    | false => simpa [confidence, hn] using inRange_ne_overflow n
  | float q =>
    cases q with
    | none => simp [confidence]
    | some q => simpa [confidence] using inRange_ne_overflow q
  | _ => simp [confidence]

theorem readClient_ok {allowedClients : List String} {x : PyObject} :
    (∃ c, readClient allowedClients x = .ok c) ↔
      (clientSchema allowedClients).conforms PyObject.view x = true := by
  unfold clientSchema
  cases allowedClients with
  | nil =>
    rw [List.isEmpty_nil, if_pos rfl, conforms_null]
    cases x <;> simp [readClient, PyObject.view]
  | cons code codes =>
    rw [List.isEmpty_cons, if_neg (by simp), conforms_anyOf]
    simp only [List.exists_mem_cons_iff, List.not_mem_nil, false_and, exists_false, or_false,
      conforms_string, conforms_null]
    cases x with
    | str s =>
      simp only [readClient, PyObject.view]
      by_cases hs : (code :: codes).contains s = true
      · rw [if_pos hs]
        simpa using List.contains_iff_mem.1 hs
      · rw [if_neg hs]
        simpa using fun h => hs (List.contains_iff_mem.2 h)
    | _ => simp [readClient, PyObject.view]

theorem readAmbiguous_ok {x : PyObject} : (∃ b, readAmbiguous x = .ok b) ↔
    Schema.boolean.conforms PyObject.view x = true := by
  rw [conforms_boolean]
  cases x <;> simp [readAmbiguous, PyObject.view]

/-- No item of the evidence is blank. -/
def NoBlankEvidence (x : PyObject) : Prop :=
  ∀ items s, x = .list items → .str s ∈ items → strip s ≠ ""

/-- The loop over the evidence, item by item. -/
theorem normalizedEvidence_ok : ∀ {items : List PyObject},
    (∃ evidence, normalizedEvidence items = .ok evidence) ↔
      ∀ x ∈ items, (Schema.string none (some 200)).conforms PyObject.view x = true ∧
        ∀ s, x = .str s → strip s ≠ "" := by
  intro items
  induction items with
  | nil => simp [normalizedEvidence]
  | cons x rest ih =>
    rw [List.forall_mem_cons, ← ih, conforms_string]
    cases x with
    | str s =>
      by_cases hblank : strip s = ""
      · simp [normalizedEvidence, hblank]
      · by_cases hlong : s.length > 200
        · have hnot : ¬ s.length ≤ 200 := by omega
          simp [normalizedEvidence, hlong, hnot, PyObject.view]
        · simp only [normalizedEvidence, hblank, hlong, or_self, if_false, bind_eq_ok, PyObject.view]
          constructor
          · rintro ⟨_, rest', hrest, -⟩
            refine ⟨⟨⟨s, rfl, by simp, ?_⟩, ?_⟩, rest', hrest⟩
            · rintro n ⟨⟩
              omega
            · rintro _ ⟨⟩
              exact hblank
          · rintro ⟨-, rest', hrest⟩
            exact ⟨_, rest', hrest, rfl⟩
    | _ => simp [normalizedEvidence, PyObject.view]

/-- What the loop accepts is the items without the blanks around them, and none of them is blank. -/
theorem normalizedEvidence_eq : ∀ {items : List PyObject} {evidence : List String},
    normalizedEvidence items = .ok evidence →
      ∃ texts : List String, items = texts.map .str ∧ evidence = texts.map strip ∧ "" ∉ evidence := by
  intro items
  induction items with
  | nil =>
    rintro evidence ⟨⟩
    exact ⟨[], rfl, rfl, List.not_mem_nil⟩
  | cons x rest ih =>
    intro evidence h
    cases x with
    | str s =>
      simp only [normalizedEvidence] at h
      split at h
      · cases h
      · next hs =>
        obtain ⟨rest', hrest, heq⟩ := bind_eq_ok.1 h
        obtain rfl := Except.ok.inj heq
        obtain ⟨texts, rfl, rfl, hblank⟩ := ih hrest
        refine ⟨s :: texts, rfl, rfl, ?_⟩
        rw [List.mem_cons, not_or]
        exact ⟨fun heq => hs (.inl heq.symm), hblank⟩
    | _ => cases h

theorem readEvidence_ok {x : PyObject} : (∃ e, readEvidence x = .ok e) ↔
    (Schema.array 1 3 (.string none (some 200))).conforms PyObject.view x = true ∧
      NoBlankEvidence x := by
  rw [conforms_array]
  cases x with
  | list items =>
    have hlength : (items.isEmpty || decide (items.length > 3)) = false ↔
        1 ≤ items.length ∧ items.length ≤ 3 := by
      cases items <;> simp
    simp only [readEvidence, PyObject.view, View.array.injEq, exists_eq_left', NoBlankEvidence]
    by_cases hl : (items.isEmpty || decide (items.length > 3)) = true
    · have hnot : ¬ (1 ≤ items.length ∧ items.length ≤ 3) := fun h => by
        rw [hlength.2 h] at hl
        cases hl
      simp only [hl, if_true, reduceCtorEq, exists_false, false_iff]
      rintro ⟨⟨h1, h2, -⟩, -⟩
      exact hnot ⟨h1, h2⟩
    · have hle := hlength.1 (by simpa using hl)
      rw [if_neg hl, normalizedEvidence_ok]
      constructor
      · intro h
        refine ⟨⟨hle.1, hle.2, fun x hx => (h x hx).1⟩, ?_⟩
        rintro _ s ⟨⟩ hs
        exact (h _ hs).2 s rfl
      · rintro ⟨⟨-, -, h⟩, hblank⟩ x hx
        refine ⟨h x hx, ?_⟩
        rintro s rfl
        exact hblank items s rfl hx
  | _ => simp [readEvidence, PyObject.view]

end Readers

/-- What `value["evidence"]` is, of a dictionary. -/
def evidenceOf : PyObject → PyObject
  | .mapping kvs => field kvs "evidence"
  | _ => .none

/-- A member that is there is what `field` reads. -/
theorem field_eq {kvs : List (Option String × PyObject)} {k : String}
    (h : kvs.any (·.1 == some k) = true) : kvs.lookup (some k) = some (field kvs k) := by
  have hsome : (kvs.lookup (some k)).isSome = true := by
    rw [lookup_isSome]
    obtain ⟨kv, hkv, hk⟩ := List.any_eq_true.1 h
    exact List.mem_map.2 ⟨kv, hkv, beq_iff_eq.1 hk⟩
  obtain ⟨x, hx⟩ := Option.isSome_iff_exists.1 hsome
  rw [field, hx, Option.getD_some]

/-- **The validation accepts what the schema does**, but for blank evidence: a response is accepted
exactly when it conforms to the schema that was sent, and no item of its evidence is blank. -/
theorem validateResponse_iff_conforms (value : PyObject) (clientCodes : List String) :
    (∃ prediction, validateResponse value clientCodes = .ok prediction) ↔
      (responseSchema clientCodes).conforms PyObject.view value = true ∧
        NoBlankEvidence (evidenceOf value) := by
  rw [responseSchema, conforms_object]
  cases value with
  | mapping kvs =>
    rw [validateResponse_eq]
    simp only [PyObject.view, View.object.injEq, exists_eq_left', evidenceOf]
    cases hfields : hasResponseFields kvs with
    | false =>
      simp only [hasResponseFields, Bool.and_eq_false_iff] at hfields
      simp only [Bool.not_false, if_true, reduceCtorEq, exists_false, false_iff]
      rintro ⟨⟨hkeys, hrequired, -⟩, -⟩
      rcases hfields with h | h
      · exact absurd (hkeys.symm.trans h) (by simp)
      · exact absurd (hrequired.symm.trans h) (by simp)
    | true =>
      simp only [hasResponseFields, Bool.and_eq_true] at hfields
      obtain ⟨hkeys, hrequired⟩ := hfields
      have hfield : ∀ k ∈ ["document_type", "type_confidence", "client_code", "client_confidence",
          "is_ambiguous", "evidence"], kvs.lookup (some k) = some (field kvs k) :=
        fun k hk => field_eq (List.all_eq_true.1 hrequired k hk)
      simp only [List.forall_mem_cons, List.not_mem_nil, IsEmpty.forall_iff, implies_true,
        and_true] at hfield
      obtain ⟨htype, htypeConfidence, hclient, hclientConfidence, hambiguous, hevidence⟩ := hfield
      -- each reader accepts what the schema of its field does
      simp only [Bool.not_true, Bool.false_eq_true, if_false, bind_eq_ok, List.forall_mem_cons,
        List.not_mem_nil, IsEmpty.forall_iff, implies_true, and_true, htype, htypeConfidence, hclient,
        hclientConfidence, hambiguous, hevidence, Option.some.injEq, forall_eq', ← readType_ok,
        ← confidence_ok, ← readClient_ok, ← readAmbiguous_ok]
      constructor
      · rintro ⟨_, t, ht, q, hq, q', hq', c, hc, b, hb, e, he, -⟩
        obtain ⟨hconforms, hblank⟩ := readEvidence_ok.1 ⟨e, he⟩
        exact ⟨⟨hkeys, hrequired, ⟨t, ht⟩, ⟨q, hq⟩, ⟨c, hc⟩, ⟨q', hq'⟩, ⟨b, hb⟩, hconforms⟩, hblank⟩
      · rintro ⟨⟨-, -, ⟨t, ht⟩, ⟨q, hq⟩, ⟨c, hc⟩, ⟨q', hq'⟩, ⟨b, hb⟩, hconforms⟩, hblank⟩
        obtain ⟨e, he⟩ := readEvidence_ok.2 ⟨hconforms, hblank⟩
        exact ⟨_, t, ht, q, hq, q', hq', c, hc, b, hb, e, he, rfl⟩
  | _ => simp [validateResponse, PyObject.view]

end SheepContabil
