import SheepContabil.Proof.Sc06Interpreters
import SheepContabil.Spec.Sc06Encoding

/-!
# SC-06: the interpreters on the document of a schema

The rules on a schema and on its document compute the same.

* `evaluateCondition_json`: a condition holds in the document when it holds.
* `coerceRaw_json`: an answer is read in the document as by the rules.
* `eachVisible_json`: a loop over the items of a document is a walk over what they are written from.
-/

namespace SheepContabil.SC06

open Py

section Evaluate

variable {stored : List (QuestionId × Answer)}

theorem ofList_beq (a b : Text) : (String.ofList a == String.ofList b) = (a == b) := by
  by_cases h : a = b
  · subst h
    rw [beq_self_eq_true, beq_self_eq_true]
  · rw [beq_false_of_ne h, beq_false_of_ne fun heq => h (String.ofList_injective heq)]

theorem lookup_ofList {α β : Type} (f : α → β) (id : Text) :
    ∀ d : List (Text × α),
      (d.map fun e => (String.ofList e.1, f e.2)).lookup (String.ofList id) = (d.lookup id).map f := by
  intro d
  induction d with
  | nil => rfl
  | cons e d ih =>
    obtain ⟨k, a⟩ := e
    rw [List.map_cons, List.lookup_cons, List.lookup_cons, ofList_beq, ih]
    cases id == k with
    | true => rfl
    | false => rfl

theorem get_storedJson (id : QuestionId) :
    Dict.get (storedJson stored) (String.ofList id) = ((stored.lookup id).map Answer.json).getD .none := by
  rw [Dict.get, storedJson, lookup_ofList]

/-- Two answers are equal as JSON values when they are. -/
theorem eq_json (a b : Answer) : Value.eq a.json b.json = (a == b) := by
  cases a with
  | bool a =>
    cases b with
    | bool b => cases a <;> cases b <;> decide
    | text t => rfl
  | text a =>
    cases b with
    | bool b => rfl
    | text b =>
      simp only [Answer.json, Value.eq, ofList_beq]
      rw [Bool.eq_iff_iff, beq_iff_eq, beq_iff_eq, Answer.text.injEq]

/-- The comparison of a stored answer. -/
theorem eq_storedJson (id : QuestionId) (value : Answer) :
    Value.eq (Dict.get (storedJson stored) (String.ofList id)) value.json =
      (stored.lookup id == some value) := by
  rw [get_storedJson]
  cases stored.lookup id with
  | none => cases value <;> rfl
  | some a => exact (eq_json a value).trans rfl

mutual

/-- What the interpreters need of a condition: a field, and some children in a composite. -/
def Condition.formed : Condition → Bool
  | .equals field _ | .notEquals field _ | .isIn field _ => field != []
  | .all conditions | .any conditions => !conditions.isEmpty && allFormed conditions

def allFormed : List Condition → Bool
  | [] => true
  | c :: rest => c.formed && allFormed rest

end

theorem ofList_ne_empty {t : Text} (h : t ≠ []) : String.ofList t ≠ "" := by
  intro heq
  exact h (String.ofList_injective heq)

theorem get_cons (k k' : String) (v : Value) (d : Dict) :
    Dict.get ((k, v) :: d) k' = if k' = k then v else Dict.get d k' := by
  unfold Dict.get
  rw [List.lookup_cons]
  by_cases h : k' = k
  · rw [if_pos h, h, beq_self_eq_true]
    rfl
  · rw [if_neg h, beq_false_of_ne h]

theorem evaluateLeaf_json {field : QuestionId} (hfield : (field != []) = true) (operator : String)
    (hoperator : operator ∈ Json.leafOperators) (value : Value) :
    Json.evaluateCondition (storedJson stored) (leafJson operator field value) =
      (let actual := Dict.get (storedJson stored) (String.ofList field)
      if operator = "equals" then pure (Value.eq actual value)
      else if operator = "not_equals" then pure (!Value.eq actual value)
      else do
        let values ← Json.requireList value "O operador \"in\" exige uma lista de valores."
        pure (values.any (Value.eq actual))) := by
  have hne : String.ofList field ≠ "" := ofList_ne_empty (by simpa using hfield)
  simp only [Json.leafOperators, List.mem_cons, List.not_mem_nil, or_false] at hoperator
  rcases hoperator with rfl | rfl | rfl <;>
    simp [leafJson, Json.evaluateCondition, Json.evaluateLeaf, Json.isIn, Json.compositeOperators,
      Json.leafOperators, get_cons, hne, Json.ok_bind]

/-- The results of the children of a composite. -/
theorem evaluateComposite_json {conditions : List Condition} (hne : conditions.isEmpty = false)
    {operator : String} (hoperator : operator ∈ Json.compositeOperators)
    (h : Json.evaluateEach (storedJson stored) (conditionsJson conditions) =
      .ok (evaluateConditions stored conditions)) :
    Json.evaluateCondition (storedJson stored)
        (.dict [("operator", .str operator), ("conditions", .list (conditionsJson conditions))]) =
      .ok (if operator = "all" then (evaluateConditions stored conditions).all id
        else (evaluateConditions stored conditions).any id) := by
  cases conditions with
  | nil => cases hne
  | cons c rest =>
    have hchildren : Json.childResults (storedJson stored) [("operator", .str operator),
        ("conditions", .list (conditionsJson (c :: rest)))] =
          .ok (evaluateConditions stored (c :: rest)) := by
      rw [Json.childResults, if_neg (by decide), Json.childResults, if_pos (by decide), conditionsJson,
        Json.resultsOf, ← conditionsJson, h]
    simp only [Json.compositeOperators, List.mem_cons, List.not_mem_nil, or_false] at hoperator
    rw [Json.evaluateCondition, hchildren]
    rcases hoperator with rfl | rfl <;>
      simp [Json.isIn, Json.compositeOperators, get_cons, Json.ok_bind, pure, Except.pure]

mutual

/-- **A condition holds in the document when it holds.** -/
theorem evaluateCondition_json : ∀ c : Condition, c.formed = true →
    Json.evaluateCondition (storedJson stored) c.json = .ok (evaluateCondition stored c)
  | .equals field value, h => by
    rw [Condition.json, evaluateLeaf_json h _ (by decide), if_pos rfl, eq_storedJson]
    rfl
  | .notEquals field value, h => by
    rw [Condition.json, evaluateLeaf_json h _ (by decide), if_neg (by decide), if_pos rfl, eq_storedJson]
    rfl
  | .isIn field values, h => by
    rw [Condition.json, evaluateLeaf_json h _ (by decide), if_neg (by decide), if_neg (by decide)]
    simp only [Json.requireList, Json.ok_bind, List.any_map, evaluateCondition]
    have hvalues : (Value.eq (Dict.get (storedJson stored) (String.ofList field)) ∘ Answer.json) =
        fun value => stored.lookup field == some value := funext (eq_storedJson field)
    rw [hvalues]
    rfl
  | .all conditions, h => by
    rw [Condition.formed, Bool.and_eq_true, Bool.not_eq_true'] at h
    rw [Condition.json, evaluateComposite_json h.1 (by decide) (evaluateEach_json conditions h.2)]
    rfl
  | .any conditions, h => by
    rw [Condition.formed, Bool.and_eq_true, Bool.not_eq_true'] at h
    rw [Condition.json, evaluateComposite_json h.1 (by decide) (evaluateEach_json conditions h.2),
      if_neg (by decide), evaluateCondition]

theorem evaluateEach_json : ∀ cs : List Condition, allFormed cs = true →
    Json.evaluateEach (storedJson stored) (conditionsJson cs) = .ok (evaluateConditions stored cs)
  | [], _ => rfl
  | c :: rest, h => by
    rw [allFormed, Bool.and_eq_true] at h
    rw [conditionsJson, Json.evaluateEach, evaluateCondition_json c h.1, Json.ok_bind,
      evaluateEach_json rest h.2]
    rfl

end

end Evaluate

section Questions

variable (q : Question)

theorem lookup_type : q.dict.lookup "type" = some (.str q.type.name) := rfl

theorem get_type : Dict.get q.dict "type" = .str q.type.name := rfl

theorem get_validation : Dict.get q.dict "validation" = .dict q.lengthsJson := rfl

theorem lookup_optionalKey (key : String) (v : Option Value) : (optionalKey key v).lookup key = v := by
  cases v with
  | none => rfl
  | some v => simp [optionalKey]

theorem lookup_optionalKey_ne {key k : String} (h : k ≠ key) (v : Option Value) :
    (optionalKey key v).lookup k = none := by
  cases v with
  | none => rfl
  | some v => simp [optionalKey, List.lookup_cons, beq_false_of_ne h]

theorem lookup_options : q.dict.lookup "options" = q.optionsJson := by
  have hhead : ([("id", .str (String.ofList q.id)), ("label", .str (String.ofList q.label)),
      ("type", .str q.type.name), ("required", .bool q.required),
      ("validation", .dict q.lengthsJson)] : Dict).lookup "options" = none := rfl
  rw [Question.dict, List.append_assoc, List.lookup_append, hhead, Option.none_or, List.lookup_append,
    lookup_optionalKey, lookup_optionalKey_ne (by decide), Option.or_none]

theorem get_visibleWhen : Dict.get q.dict "visible_when" = (q.visibleWhen.map Condition.json).getD .none := by
  have hhead : ([("id", .str (String.ofList q.id)), ("label", .str (String.ofList q.label)),
      ("type", .str q.type.name), ("required", .bool q.required),
      ("validation", .dict q.lengthsJson)] : Dict).lookup "visible_when" = none := rfl
  rw [Dict.get, Question.dict, List.append_assoc, List.lookup_append, hhead, Option.none_or,
    List.lookup_append, lookup_optionalKey_ne (by decide), Option.none_or, lookup_optionalKey]

theorem get_minLength : Dict.get q.lengthsJson "min_length" = (lengthJson q.minLength).getD .none := by
  rw [Dict.get, Question.lengthsJson, List.lookup_append, lookup_optionalKey,
    lookup_optionalKey_ne (by decide), Option.or_none]

theorem get_maxLength : Dict.get q.lengthsJson "max_length" = (lengthJson q.maxLength).getD .none := by
  rw [Dict.get, Question.lengthsJson, List.lookup_append, lookup_optionalKey_ne (by decide),
    Option.none_or, lookup_optionalKey]

theorem choiceOptions_json : Json.choiceOptions q.dict = .ok (q.options.map ChoiceOption.json) := by
  rw [Json.choiceOptions, lookup_options, Question.optionsJson]
  by_cases h : q.options = []
  · rw [if_pos h, h]
    rfl
  · rw [if_neg h]
    rfl

/-- A loop that fails on no item. -/
theorem mapM_ok {α β : Type} {json : α → Value} {read : Value → Json.Check β} {result : α → β}
    (h : ∀ a, read (json a) = .ok (result a)) (items : List α) :
    (items.map json).mapM read = .ok (items.map result) := by
  induction items with
  | nil => rfl
  | cons a rest ih =>
    rw [List.map_cons, List.mapM_cons, h, Json.ok_bind, ih, Json.ok_bind]
    rfl

theorem optionValues_json (options : List ChoiceOption) :
    (options.map ChoiceOption.json).mapM Json.optionValue =
      .ok (options.map fun o => .str (String.ofList o.value)) :=
  @mapM_ok ChoiceOption Value ChoiceOption.json Json.optionValue
    (fun o => .str (String.ofList o.value)) (fun _ => rfl) options

theorem int?_length (n : Option ℕ) :
    Json.int? ((lengthJson n).getD .none) = n.map fun n : ℕ => (n : ℤ) := by
  cases n with
  | none => rfl
  | some n => rfl

/-- What `_coerce_answer` says of the length of a text. -/
def Question.lengthError? (t : Text) : Option String :=
  if q.minLength.any fun minimum => decide (t.length < minimum) then
    some s!"Informe ao menos {q.minLength.getD 0} caracteres."
  else if q.maxLength.any fun maximum => decide (maximum < t.length) then
    some s!"Informe no máximo {q.maxLength.getD 0} caracteres."
  else none

/-- What the document makes of a text, or of what is wrong with it. -/
def textTaken (t : Text) : Option String → Json.Check Value
  | some message => Json.refuse message
  | none => .ok (.str (String.ofList t))

/-- The lengths are checked on the same text. -/
theorem checkLengths_json (t : Text) :
    Json.checkLengths q.dict (String.ofList t) = textTaken t (q.lengthError? t) := by
  have hlength : (String.ofList t).length = t.length := by simp
  have hrepr : ∀ n : ℕ, (n : ℤ).repr = n.repr := fun _ => rfl
  rw [Json.checkLengths, get_validation]
  dsimp only
  rw [get_minLength, get_maxLength, int?_length, int?_length, hlength, Question.lengthError?]
  cases q.minLength <;> cases q.maxLength <;> simp [toString, hrepr, textTaken] <;> split_ifs <;> rfl

theorem coerceBoolean_json (validators : Validators) (h : q.type = .boolean) (raw : Value) :
    Json.coerceBoolean raw = answered (coerceAnswer validators q (rawOf raw)) := by
  unfold coerceAnswer
  rw [if_pos h]
  cases raw with
  | int n =>
    dsimp only [Json.coerceBoolean, rawOf]
    split_ifs <;> rfl
  | str s =>
    simp only [Json.coerceBoolean, rawOf, List.contains_iff_mem]
    split_ifs <;> rfl
  | list xs => cases xs <;> rfl
  | _ => rfl

/-- A text is taken, or refused, in the document as by the rules. -/
theorem textError_json (validators : Validators) (h : q.type ≠ .boolean) (s : String) :
    Json.coerceRaw validators q.dict (.str s) =
      textTaken (strip s.toList) (q.textError? validators (strip s.toList)) := by
  have hstrip : Py.strip s = String.ofList (strip s.toList) := rfl
  rw [Json.coerceRaw, lookup_type, choiceOptions_json]
  dsimp only
  rw [hstrip]
  generalize strip s.toList = t
  have htext : q.textError? validators t =
      if q.type = .choice ∧ t ∉ q.options.map (·.value) then
        some "Selecione uma das opções disponíveis."
      else if q.type = .date ∧ validators.isDate t = false then some "Informe uma data válida."
      else if q.type = .email ∧ validators.isEmail t = false then some "Informe um e-mail válido."
      else q.lengthError? t := rfl
  rw [htext]
  cases htype : q.type with
  | boolean => exact absurd htype h
  | choice =>
    have hmem : ((q.options.map fun o => Value.str (String.ofList o.value)).any fun v =>
        v.str? == some (String.ofList t)) = true ↔ t ∈ q.options.map (·.value) := by
      simp only [List.any_eq_true, List.mem_map, beq_iff_eq, exists_exists_and_eq_and, Value.str?_str,
        Option.some.injEq]
      exact exists_congr fun o => and_congr_right fun _ => ⟨fun h => String.ofList_injective h, congrArg _⟩
    show (List.mapM Json.optionValue (q.options.map ChoiceOption.json) >>= fun allowed =>
      if (allowed.any fun v => v.str? == some (String.ofList t)) = true then
        Json.checkLengths q.dict (String.ofList t)
      else Json.refuse "Selecione uma das opções disponíveis.") = _
    rw [optionValues_json, Json.ok_bind, checkLengths_json]
    by_cases ht : t ∈ q.options.map (·.value)
    · rw [if_pos (hmem.2 ht), if_neg fun h => h.2 ht, if_neg (by simp), if_neg (by simp)]
    · rw [if_neg fun h => ht (hmem.1 h), if_pos ⟨rfl, ht⟩]
      rfl
  | date =>
    show (if validators.isDate (String.ofList t).toList = true then
      Json.checkLengths q.dict (String.ofList t) else Json.refuse "Informe uma data válida.") = _
    rw [String.toList_ofList, checkLengths_json]
    cases validators.isDate t <;> simp [textTaken]
  | email =>
    show (if validators.isEmail (String.ofList t).toList = true then
      Json.checkLengths q.dict (String.ofList t) else Json.refuse "Informe um e-mail válido.") = _
    rw [String.toList_ofList, checkLengths_json]
    cases validators.isEmail t <;> simp [textTaken]
  | text | textarea =>
    show Json.checkLengths q.dict (String.ofList t) = _
    rw [checkLengths_json, if_neg (by simp), if_neg (by simp), if_neg (by simp)]

/-- **An answer is read in the document as by the rules**, with the same error. -/
theorem coerceRaw_json (validators : Validators) (raw : Value) :
    Json.coerceRaw validators q.dict raw = answered (coerceAnswer validators q (rawOf raw)) := by
  by_cases hboolean : q.type = .boolean
  · have hraw : Json.coerceRaw validators q.dict raw = Json.coerceBoolean raw := by
      rw [Json.coerceRaw, lookup_type, hboolean]
      rfl
    rw [hraw, coerceBoolean_json q validators hboolean]
  · have hrefused : ∀ {raw}, (∀ s, raw ≠ .str s) → Json.coerceRaw validators q.dict raw =
        Json.refuse "Informe um valor textual válido." := by
      intro raw hraw
      rw [Json.coerceRaw, lookup_type]
      cases htype : q.type <;> cases raw <;>
        first
        | exact absurd htype hboolean
        | exact absurd rfl (hraw _)
        | rfl
    unfold coerceAnswer
    rw [if_neg hboolean]
    cases raw with
    | str s =>
      rw [textError_json q validators hboolean]
      dsimp only [rawOf]
      cases q.textError? validators (strip s.toList) <;> rfl
    | list xs =>
      rw [hrefused (by intro s h; cases h)]
      cases xs <;> rfl
    | _ =>
      rw [hrefused (by intro s h; cases h)]
      rfl

end Questions

section Walks

/-- Names of answers and errors that a walk has placed are not those of the questions to come. -/
def Fresh (keys ids : List QuestionId) : Prop := ids.Nodup ∧ ∀ i ∈ ids, i ∉ keys

theorem Fresh.visited {keys keys' ids rest : List QuestionId} (h : Fresh keys (ids ++ rest))
    (hkeys : ∀ i ∈ keys', i ∈ keys ∨ i ∈ ids) : Fresh keys' rest := by
  obtain ⟨hnodup, hfresh⟩ := h
  refine ⟨(List.nodup_append.1 hnodup).2.1, fun i hi hmem => ?_⟩
  rcases hkeys i hmem with hkey | hid
  · exact hfresh i (List.mem_append_right _ hi) hkey
  · exact (List.nodup_append.1 hnodup).2.2 i hid i hi rfl

theorem evaluateVisibleWhen_json {stored : List (QuestionId × Answer)} {condition : Option Condition}
    (h : condition.all Condition.formed = true) :
    Json.evaluateCondition (storedJson stored) ((condition.map Condition.json).getD .none) =
      .ok (condition.all (evaluateCondition stored)) := by
  cases condition with
  | none => rfl
  | some c => exact evaluateCondition_json c h

/-- The loop of an interpreter over a document, and the walk of the rules that it is. -/
theorem eachVisible_json {α σ τ : Type} {json : α → Value} {visibleWhen : α → Option Condition}
    {ids : α → List QuestionId} {seen : σ → Dict} {visit : Value → σ → Json.Check σ}
    {enc : τ → σ} {stored : τ → List (QuestionId × Answer)} {keys : τ → List QuestionId}
    {step : τ → α → τ}
    (hget : ∀ a, Json.getOf (json a) "visible_when" =
      .ok (((visibleWhen a).map Condition.json).getD .none))
    (hseen : ∀ w, seen (enc w) = storedJson (stored w)) {items : List α}
    (hvisit : ∀ a ∈ items, ∀ w, Fresh (keys w) (ids a) →
      visit (json a) (enc w) = .ok (enc (step w a)) ∧
        ∀ i ∈ keys (step w a), i ∈ keys w ∨ i ∈ ids a)
    (hformed : ∀ a ∈ items, (visibleWhen a).all Condition.formed = true) :
    ∀ w, Fresh (keys w) (items.flatMap ids) →
      let walked := items.foldl
        (fun w a => if (visibleWhen a).all (evaluateCondition (stored w)) then step w a else w) w
      Json.eachVisible seen visit (items.map json) (enc w) = .ok (enc walked) ∧
        ∀ i ∈ keys walked, i ∈ keys w ∨ i ∈ items.flatMap ids := by
  induction items with
  | nil => exact fun w _ => ⟨rfl, fun i hi => .inl hi⟩
  | cons a rest ih =>
    intro w hfresh
    have ih := ih (fun b hb => hvisit b (List.mem_cons_of_mem a hb))
      fun b hb => hformed b (List.mem_cons_of_mem a hb)
    rw [List.flatMap_cons] at hfresh
    have hhead : Fresh (keys w) (ids a) := ⟨(List.nodup_append.1 hfresh.1).1,
      fun i hi => hfresh.2 i (List.mem_append_left _ hi)⟩
    dsimp only
    rw [List.map_cons, Json.eachVisible, hget, Json.ok_bind, hseen,
      evaluateVisibleWhen_json (hformed a List.mem_cons_self), Json.ok_bind, List.foldl_cons,
      List.flatMap_cons]
    by_cases hvisible : (visibleWhen a).all (evaluateCondition (stored w)) = true
    · -- a visit places names of its own only, so the names to come stay fresh
      obtain ⟨hstep, hkeys⟩ := hvisit a List.mem_cons_self w hhead
      obtain ⟨hwalk, hafter⟩ := ih (step w a) (hfresh.visited hkeys)
      rw [if_pos hvisible, if_pos hvisible, hstep, Json.ok_bind]
      refine ⟨hwalk, fun i hi => ?_⟩
      rw [List.mem_append]
      rcases hafter i hi with hkey | hid
      · exact (hkeys i hkey).imp_right .inl
      · exact .inr (.inr hid)
    · obtain ⟨hwalk, hafter⟩ := ih w (hfresh.visited fun i hi => .inl hi)
      rw [if_neg hvisible, if_neg hvisible]
      exact ⟨hwalk, fun i hi => (hafter i hi).imp_right (List.mem_append_right _)⟩

theorem set_json {stored : List (QuestionId × Answer)} {id : QuestionId} (h : id ∉ stored.map Prod.fst)
    (value : Answer) :
    Dict.set (storedJson stored) (String.ofList id) value.json = storedJson (stored ++ [(id, value)]) := by
  induction stored with
  | nil => rfl
  | cons e rest ih =>
    rw [List.map_cons, List.mem_cons, not_or] at h
    -- `value[key] = …` of a new key appends it
    have hne : String.ofList e.1 ≠ String.ofList id := fun heq =>
      h.1 (String.ofList_injective heq).symm
    show (if String.ofList e.1 = String.ofList id then _ else _) = _
    rw [if_neg hne, ← storedJson, ih h.2]
    rfl

theorem setErrors_json {errors : List (QuestionId × String)} {id : QuestionId}
    (h : id ∉ errors.map Prod.fst) (message : String) :
    Json.setErrors (String.ofList id) [message] (errorsJson errors) =
      errorsJson (errors ++ [(id, message)]) := by
  induction errors with
  | nil => rfl
  | cons e rest ih =>
    rw [List.map_cons, List.mem_cons, not_or] at h
    have hne : String.ofList e.1 ≠ String.ofList id := fun heq =>
      h.1 (String.ofList_injective heq).symm
    show (if String.ofList e.1 = String.ofList id then _ else _) = _
    rw [if_neg hne, ih h.2]
    rfl

theorem isEmpty_json (raw : Value) : Json.isEmpty raw = (rawOf raw).isEmpty := by
  cases raw with
  | str s =>
    rw [Json.isEmpty, rawOf]
    by_cases h : s = ""
    · rw [h]
      rfl
    · have hne : s.toList ≠ [] := fun heq => h (String.toList_injective heq)
      rw [beq_false_of_ne h]
      cases hs : s.toList with
      | nil => exact absurd hs hne
      | cons c rest => rfl
  | list xs => cases xs <;> rfl
  | _ => rfl

variable (validators : Validators) (answers : Dict) (requireComplete : Bool)

/-- The walk of the document that stands for a walk of the rules. -/
def Sanitation.json (w : Sanitation) : Json.Sanitized := ⟨storedJson w.sanitized, errorsJson w.errors⟩

/-- The names of the answers and the errors. -/
def Sanitation.keys (w : Sanitation) : List QuestionId :=
  w.sanitized.map Prod.fst ++ w.errors.map Prod.fst

theorem Sanitation.keys_error (w : Sanitation) (id : QuestionId) (message : String) :
    ∀ i ∈ ({ w with errors := w.errors ++ [(id, message)] } : Sanitation).keys, i ∈ w.keys ∨ i ∈ [id] := by
  intro i hi
  simp only [Sanitation.keys, List.map_append, List.map_cons, List.map_nil, List.mem_append] at hi ⊢
  rcases hi with hi | hi | hi
  · exact .inl (.inl hi)
  · exact .inl (.inr hi)
  · exact .inr hi

theorem Sanitation.keys_answer (w : Sanitation) (id : QuestionId) (value : Answer) :
    ∀ i ∈ ({ w with sanitized := w.sanitized ++ [(id, value)] } : Sanitation).keys,
      i ∈ w.keys ∨ i ∈ [id] := by
  intro i hi
  simp only [Sanitation.keys, List.map_append, List.map_cons, List.map_nil, List.mem_append] at hi ⊢
  rcases hi with (hi | hi) | hi
  · exact .inl (.inl hi)
  · exact .inr hi
  · exact .inl (.inr hi)

variable {w : Sanitation} {q : Question}

/-- An unanswered question, in the document and in the rules. -/
theorem missing_json (h : q.id ∉ w.errors.map Prod.fst) :
    Json.sanitizeQuestion.missing requireComplete w.json q.dict (String.ofList q.id) =
        (Sanitation.answer.missing requireComplete q w).json ∧
      ∀ i ∈ (Sanitation.answer.missing requireComplete q w).keys, i ∈ w.keys ∨ i ∈ [q.id] := by
  have hrequired : Json.truthy ((q.dict.lookup "required").getD (.bool false)) = q.required := rfl
  unfold Json.sanitizeQuestion.missing Sanitation.answer.missing
  rw [hrequired]
  by_cases hcomplete : (requireComplete && q.required) = true
  · rw [if_pos hcomplete, if_pos hcomplete]
    refine ⟨?_, w.keys_error q.id _⟩
    show (⟨storedJson w.sanitized, Json.setErrors _ _ (errorsJson w.errors)⟩ : Json.Sanitized) = _
    rw [setErrors_json h]
    rfl
  · rw [if_neg hcomplete, if_neg hcomplete]
    exact ⟨rfl, fun i hi => .inl hi⟩

theorem sanitizeQuestion_json (h : Fresh w.keys [q.id]) :
    Json.sanitizeQuestion validators answers requireComplete q.json w.json =
        .ok (w.answer validators (rawAnswers answers) requireComplete q).json ∧
      ∀ i ∈ (w.answer validators (rawAnswers answers) requireComplete q).keys,
        i ∈ w.keys ∨ i ∈ [q.id] := by
  have hid : Json.itemText q.json "id" = .ok (String.ofList q.id) := rfl
  have hcopy : Json.copyOf q.json = .ok q.dict := rfl
  have hkeys := h.2 q.id (List.mem_singleton_self _)
  rw [Sanitation.keys, List.mem_append, not_or] at hkeys
  unfold Json.sanitizeQuestion Sanitation.answer rawAnswers
  rw [hid, Json.ok_bind, hcopy, Json.ok_bind]
  have hmissing := @missing_json requireComplete { w with active := w.active ++ [q.id] } q hkeys.2
  cases answers.lookup (String.ofList q.id) with
  | none =>
    exact ⟨congrArg Except.ok hmissing.1, hmissing.2⟩
  | some raw =>
    dsimp only [Option.map_some]
    rw [isEmpty_json, coerceRaw_json]
    by_cases hempty : (rawOf raw).isEmpty = true
    · rw [if_pos hempty, if_pos hempty]
      exact ⟨congrArg Except.ok hmissing.1, hmissing.2⟩
    · rw [if_neg hempty, if_neg hempty]
      cases coerceAnswer validators q (rawOf raw) with
      | ok value =>
        refine ⟨?_, Sanitation.keys_answer { w with active := w.active ++ [q.id] } q.id value⟩
        show Except.ok (⟨Dict.set (storedJson w.sanitized) _ value.json, _⟩ : Json.Sanitized) = _
        rw [set_json hkeys.1]
        rfl
      | error message =>
        refine ⟨?_, Sanitation.keys_error { w with active := w.active ++ [q.id] } q.id message⟩
        show Except.ok (⟨_, Json.setErrors _ [message] (errorsJson w.errors)⟩ : Json.Sanitized) = _
        rw [setErrors_json hkeys.2]
        rfl

theorem sanitizeSection_json {s : Section}
    (hformed : ∀ q ∈ s.questions, q.visibleWhen.all Condition.formed = true)
    (h : Fresh w.keys (s.questions.map (·.id))) :
    let walked := s.questions.foldl
      (Sanitation.question validators (rawAnswers answers) requireComplete) w
    Json.sanitizeSection validators answers requireComplete s.json w.json = .ok walked.json ∧
      ∀ i ∈ walked.keys, i ∈ w.keys ∨ i ∈ s.questions.map (·.id) := by
  have hitems : Json.itemList s.json "questions" = .ok (s.questions.map Question.json) := rfl
  have hids : s.questions.flatMap (fun q => [q.id]) = s.questions.map (·.id) :=
    List.map_eq_flatMap.symm
  have hwalk := @eachVisible_json Question Json.Sanitized Sanitation Question.json Question.visibleWhen
    (fun q => [q.id]) Json.Sanitized.answers
    (Json.sanitizeQuestion validators answers requireComplete) Sanitation.json Sanitation.sanitized
    Sanitation.keys (fun w q => w.answer validators (rawAnswers answers) requireComplete q)
    (fun q => by rw [Question.json, Json.getOf, get_visibleWhen]) (fun _ => rfl) s.questions
    (fun q _ w hw => sanitizeQuestion_json validators answers requireComplete hw) hformed w
  rw [hids] at hwalk
  unfold Json.sanitizeSection
  rw [hitems, Json.ok_bind]
  exact hwalk h

end Walks

section Answers

variable (validators : Validators) (u : Unicode) (answers : Dict) (requireComplete : Bool)

theorem strip_eq_nil_iff {t : Text} : strip t = [] ↔ t.all isSpace = true := by
  constructor
  · intro h
    rw [List.all_eq_true]
    intro c hc
    by_contra hspace
    have hmem : c ∈ strip t := (mem_stripOf (by simpa using hspace)).2 hc
    rw [h] at hmem
    cases hmem
  · intro h
    have hdrop : t.dropWhile isSpace = [] :=
      List.dropWhile_eq_nil_iff.2 fun c hc => List.all_eq_true.1 h c hc
    rw [strip, stripOf, hdrop]
    rfl

theorem isBlank_eq (s : String) : isBlank s = decide (strip s.toList = []) := by
  rw [Bool.eq_iff_iff, decide_eq_true_eq, strip_eq_nil_iff]
  rfl

theorem get_answer (stored : List (QuestionId × Answer)) (id : String) :
    Dict.get (storedJson stored) id = ((stored.lookup id.toList).map Answer.json).getD .none := by
  have h := @get_storedJson stored id.toList
  rwa [String.ofList_toList] at h

/-- The married partner is looked for in the same answers. -/
theorem undeclaredPartner_json (stored : List (QuestionId × Answer)) :
    Json.undeclaredPartner u (storedJson stored) =
      (undeclaredPartner u stored).map String.ofList := by
  have htrue : Dict.isTrue (storedJson stored) "has_married_partner" =
      decide (stored.lookup "has_married_partner".toList = some (.bool true)) := by
    rw [Dict.isTrue, get_answer]
    cases stored.lookup "has_married_partner".toList with
    | none => rfl
    | some a => cases a with
      | bool b => cases b <;> rfl
      | text t => rfl
  unfold Json.undeclaredPartner undeclaredPartner
  rw [htrue, get_answer, get_answer]
  by_cases hmarried : stored.lookup "has_married_partner".toList = some (.bool true)
  · rw [decide_eq_true hmarried, if_pos rfl, if_pos hmarried]
    cases stored.lookup "married_partner_name".toList with
    | none => rfl
    | some a => cases a with
      | bool b => rfl
      | text married => cases stored.lookup "partner_names".toList with
        | none => rfl
        | some a => cases a with
          | bool b => rfl
          | text partners =>
            dsimp only [Option.map_some, Option.getD_some, Answer.json, Value.str?]
            simp only [isBlank_eq, String.toList_ofList, decide_eq_false_iff_not]
            split_ifs <;> rfl
  · rw [decide_eq_false hmarried, if_neg Bool.false_ne_true, if_neg hmarried]
    rfl

theorem addError_json (field : QuestionId) (message : String) (errors : FieldErrors) :
    Json.addError (String.ofList field) message (fieldErrorsJson errors) =
      fieldErrorsJson (addError field message errors) := by
  induction errors with
  | nil => rfl
  | cons e rest ih =>
    by_cases h : e.1 = field
    · simp [fieldErrorsJson, Json.addError, addError, h]
    · have hne : String.ofList e.1 ≠ String.ofList field := fun heq => h (String.ofList_injective heq)
      simp only [fieldErrorsJson, Json.addError, addError, List.map_cons, if_neg hne, if_neg h]
      exact congrArg _ ih

end Answers

end SheepContabil.SC06
