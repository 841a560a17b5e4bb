import SheepContabil.Proof.Sc06Answers
import SheepContabil.Proof.Sc06EncodedSchema

/-!
# SC-06: the answers on the document of a schema

* `sanitizeAnswers_json`: **on an accepted schema the answers are those of the rules.**
* `getActiveSections_json`: **so are the active sections.**
* `formatAnswers_json`: **so is the consolidated result.**
-/

namespace SheepContabil.SC06

open Py

section Formed

variable {validators : Validators}

theorem field_ne_nil {before : List Question} (hbefore : ∀ q ∈ before, q.id ≠ []) {field : QuestionId}
    {q : Question} (h : before.find? (fun q => q.id == field) = some q) : (field != []) = true := by
  have hid : q.id = field := by simpa using List.find?_some h
  rw [bne_iff_ne, ← hid]
  exact hbefore q (List.mem_of_find?_eq_some h)

mutual

/-- An accepted condition names fields, and its composites have children. -/
theorem Condition.formed_of_accepted {before : List Question} (hbefore : ∀ q ∈ before, q.id ≠ []) :
    ∀ (c : Condition) (depth : ℕ), c.accepted validators before depth = true → c.formed = true
  | .equals field value, depth, h => by
    rw [Condition.accepted, Bool.and_eq_true] at h
    obtain ⟨q, hq, -⟩ := comparable_iff.1 h.2
    exact field_ne_nil hbefore hq
  | .notEquals field value, depth, h => by
    rw [Condition.accepted, Bool.and_eq_true] at h
    obtain ⟨q, hq, -⟩ := comparable_iff.1 h.2
    exact field_ne_nil hbefore hq
  | .isIn field values, depth, h => by
    rw [Condition.accepted, Bool.and_eq_true, Bool.and_eq_true, Bool.not_eq_true'] at h
    obtain ⟨q, hq, -⟩ := (allComparable_iff h.1.2).1 h.2
    exact field_ne_nil hbefore hq
  | .all conditions, depth, h => by
    rw [Condition.accepted, Bool.and_eq_true, Bool.and_eq_true] at h
    rw [Condition.formed, h.1.2, Bool.true_and]
    exact allFormed_of_accepted hbefore conditions (depth + 1) h.2
  | .any conditions, depth, h => by
    rw [Condition.accepted, Bool.and_eq_true, Bool.and_eq_true] at h
    rw [Condition.formed, h.1.2, Bool.true_and]
    exact allFormed_of_accepted hbefore conditions (depth + 1) h.2

theorem allFormed_of_accepted {before : List Question} (hbefore : ∀ q ∈ before, q.id ≠ []) :
    ∀ (conditions : List Condition) (depth : ℕ), acceptedAll validators before depth conditions = true →
      allFormed conditions = true
  | [], _, _ => rfl
  | c :: rest, depth, h => by
    rw [acceptedAll, Bool.and_eq_true] at h
    rw [allFormed, Condition.formed_of_accepted hbefore c depth h.1,
      allFormed_of_accepted hbefore rest depth h.2]
    rfl

end

theorem formed_of_acceptedCondition {before : List Question} (hbefore : ∀ q ∈ before, q.id ≠ [])
    {condition : Option Condition} (h : acceptedCondition validators before condition = true) :
    condition.all Condition.formed = true := by
  cases condition with
  | none => rfl
  | some c => exact Condition.formed_of_accepted hbefore c 0 h

theorem formed_of_acceptedQuestions : ∀ {questions before : List Question},
    (∀ q ∈ before, q.id ≠ []) → (∀ q ∈ questions, q.id ≠ []) →
    acceptedQuestions validators before questions = true →
    ∀ q ∈ questions, q.visibleWhen.all Condition.formed = true := by
  intro questions
  induction questions with
  | nil => exact fun _ _ _ q hq => by cases hq
  | cons q rest ih =>
    intro before hbefore hquestions h
    rw [acceptedQuestions, Bool.and_eq_true] at h
    have hmore : ∀ p ∈ before ++ [q], p.id ≠ [] := by
      intro p hp
      rcases List.mem_append.1 hp with hp | hp
      · exact hbefore p hp
      · rw [List.mem_singleton.1 hp]
        exact hquestions q List.mem_cons_self
    intro p hp
    rcases List.mem_cons.1 hp with rfl | hp
    · exact formed_of_acceptedCondition hbefore h.1
    · exact ih hmore (fun p hp => hquestions p (List.mem_cons_of_mem q hp)) h.2 p hp

theorem formed_of_acceptedSections : ∀ {sections : List Section} {before : List Question},
    (∀ q ∈ before, q.id ≠ []) → (∀ s ∈ sections, ∀ q ∈ s.questions, q.id ≠ []) →
    acceptedSections validators before sections = true →
    ∀ s ∈ sections, s.visibleWhen.all Condition.formed = true ∧
      ∀ q ∈ s.questions, q.visibleWhen.all Condition.formed = true := by
  intro sections
  induction sections with
  | nil => exact fun _ _ _ s hs => by cases hs
  | cons s rest ih =>
    intro before hbefore hsections h
    rw [acceptedSections, Bool.and_eq_true, Bool.and_eq_true] at h
    have hquestions := hsections s List.mem_cons_self
    have hmore : ∀ q ∈ before ++ s.questions, q.id ≠ [] := by
      intro q hq
      rcases List.mem_append.1 hq with hq | hq
      · exact hbefore q hq
      · exact hquestions q hq
    intro t ht
    rcases List.mem_cons.1 ht with rfl | ht
    · exact ⟨formed_of_acceptedCondition hbefore h.1.1,
        formed_of_acceptedQuestions hbefore hquestions h.1.2⟩
    · exact ih hmore (fun t ht => hsections t (List.mem_cons_of_mem s ht)) h.2 t ht

end Formed

section Sanitize

variable {validators : Validators} {schema : Schema} (u : Unicode) (answers : Dict)
  (requireComplete : Bool)

/-- The conditions of an accepted schema are well formed, and its questions are distinct. -/
theorem walk_of_accepted (h : schema.accepted validators = true) :
    (∀ s ∈ schema.sections, s.visibleWhen.all Condition.formed = true ∧
      ∀ q ∈ s.questions, q.visibleWhen.all Condition.formed = true) ∧
    Fresh [] (schema.sections.flatMap fun s => s.questions.map (·.id)) := by
  simp only [Schema.accepted, Bool.and_eq_true, decide_eq_true_eq, List.all_eq_true] at h
  obtain ⟨⟨⟨⟨-, hsections⟩, -⟩, hnodup⟩, hconditions⟩ := h
  -- an identifier is not empty, which is what the interpreters ask of a field
  have hids : ∀ s ∈ schema.sections, ∀ q ∈ s.questions, q.id ≠ [] := by
    intro s hs q hq
    exact (strip_identifier (identifier_of_accepted ((hsections s hs).2 q hq))).2
  refine ⟨formed_of_acceptedSections (fun q hq => by cases hq) hids hconditions, ?_, fun i _ hi => by
    cases hi⟩
  rwa [Schema.questions, List.map_flatMap] at hnodup

/-- The walk over an accepted schema, in the document and in the rules. -/
theorem sanitizeSections_json (h : schema.accepted validators = true) :
    Json.eachVisible Json.Sanitized.answers (Json.sanitizeSection validators answers requireComplete)
        (schema.sections.map Section.json) ⟨[], []⟩ =
      .ok (sanitize validators (rawAnswers answers) requireComplete schema).json := by
  obtain ⟨hformed, hids⟩ := walk_of_accepted h
  have hfresh : Fresh ({} : Sanitation).keys
    (schema.sections.flatMap fun s => s.questions.map (·.id)) := hids
  exact (@eachVisible_json Section Json.Sanitized Sanitation Section.json Section.visibleWhen
    (fun s => s.questions.map (·.id)) Json.Sanitized.answers
    (Json.sanitizeSection validators answers requireComplete) Sanitation.json Sanitation.sanitized
    Sanitation.keys
    (fun w s => s.questions.foldl
      (Sanitation.question validators (rawAnswers answers) requireComplete) w)
    (fun s => by rw [Section.json, Json.getOf, get_sectionVisibleWhen]) (fun _ => rfl) schema.sections
    (fun s hs w hw => sanitizeSection_json validators answers requireComplete (hformed s hs).2 hw)
    (fun s hs => (hformed s hs).1) {} hfresh).1

/-- **The answers of an accepted schema, written as a document, are those of the rules.** -/
theorem sanitizeAnswers_json (h : schema.accepted validators = true) :
    Json.sanitizeAnswers validators answers requireComplete u schema.json =
      .ok (outcomeJson (sanitizeAnswers validators u (rawAnswers answers) requireComplete schema)) := by
  have hitems : Json.itemList schema.json "sections" = .ok (schema.sections.map Section.json) := rfl
  unfold Json.sanitizeAnswers sanitizeAnswers
  rw [(validateTemplateSchema_json validators schema).2 h, Json.ok_bind, hitems, Json.ok_bind,
    sanitizeSections_json answers requireComplete h, Json.ok_bind]
  dsimp only
  generalize sanitize validators (rawAnswers answers) requireComplete schema = w
  have hpartner : (if requireComplete then Json.undeclaredPartner u w.json.answers else none) =
      (if requireComplete then undeclaredPartner u w.sanitized else none).map String.ofList := by
    cases requireComplete with
    | true => exact undeclaredPartner_json u w.sanitized
    | false => rfl
  have herrors : w.json.errors = fieldErrorsJson (w.errors.map fun e => (e.1, [e.2])) := by
    rw [fieldErrorsJson, List.map_map]
    rfl
  have houtcome : ∀ errors : FieldErrors,
      (pure (if (fieldErrorsJson errors).isEmpty then .ok (storedJson w.sanitized)
        else .error (fieldErrorsJson errors)) : Json.Check (Except Json.Errors Dict)) =
          .ok (outcomeJson (if errors = [] then .ok w.sanitized else .error errors)) := by
    intro errors
    cases errors <;> rfl
  rw [hpartner, herrors, Sanitation.allErrors]
  cases (if requireComplete then undeclaredPartner u w.sanitized else none) with
  | none => exact houtcome _
  | some married =>
    have hadded : Json.addError "married_partner_name" (partnerMessage (String.ofList married).toList)
        (fieldErrorsJson (w.errors.map fun e => (e.1, [e.2]))) =
          fieldErrorsJson (addError "married_partner_name".toList (partnerMessage married)
            (w.errors.map fun e => (e.1, [e.2]))) := by
      rw [String.toList_ofList]
      exact addError_json "married_partner_name".toList (partnerMessage married) _
    have h := houtcome (addError "married_partner_name".toList (partnerMessage married)
      (w.errors.map fun e => (e.1, [e.2])))
    rw [← hadded] at h
    exact h

end Sanitize

section Active

/-- What the document has of a walk over the questions of a section. -/
def ActiveQuestions.json (w : ActiveQuestions) : Json.Active :=
  ⟨storedJson w.effective, w.questions.map Question.json⟩

/-- What the document has of a walk over the sections. -/
def ActiveSections.json (w : ActiveSections) : Json.Active :=
  ⟨storedJson w.effective, w.sections.map Section.json⟩

/-- A question that is active, and its answer if it is valid. -/
def ActiveQuestions.add (validators : Validators) (answers : QuestionId → Option RawAnswer)
    (w : ActiveQuestions) (q : Question) : ActiveQuestions where
  effective := w.effective ++ entry q (effectiveAnswer validators answers q)
  questions := w.questions ++ [q]

/-- A section that is active, with its active questions. -/
def ActiveSections.add (validators : Validators) (answers : QuestionId → Option RawAnswer)
    (w : ActiveSections) (s : Section) : ActiveSections :=
  let active := s.questions.foldl (ActiveQuestions.question validators answers)
    { effective := w.effective }
  { effective := active.effective
    sections := w.sections ++ [{ s with questions := active.questions }] }

variable {validators : Validators} {answers : Dict} {schema : Schema}

theorem activeQuestion_json {w : ActiveQuestions} {q : Question}
    (h : Fresh (w.effective.map Prod.fst) [q.id]) :
    Json.activeQuestion validators answers q.json w.json =
        .ok (w.add validators (rawAnswers answers) q).json ∧
      ∀ i ∈ (w.add validators (rawAnswers answers) q).effective.map Prod.fst,
        i ∈ w.effective.map Prod.fst ∨ i ∈ [q.id] := by
  have hid : Json.itemText q.json "id" = .ok (String.ofList q.id) := rfl
  have hcopy : Json.copyOf q.json = .ok q.dict := rfl
  have hkeys := h.2 q.id (List.mem_singleton_self _)
  unfold Json.activeQuestion ActiveQuestions.add effectiveAnswer rawAnswers
  rw [hcopy, Json.ok_bind, hid, Json.ok_bind]
  have hnone : w.effective ++ entry q none = w.effective := List.append_nil w.effective
  cases answers.lookup (String.ofList q.id) with
  | none =>
    dsimp only [Option.map_none, Option.bind_none]
    rw [hnone]
    refine ⟨?_, fun i hi => .inl hi⟩
    simp [ActiveQuestions.json, Question.json, pure, Except.pure]
  | some raw =>
    dsimp only [Option.map_some, Option.bind_some]
    rw [coerceRaw_json]
    cases coerceAnswer validators q (rawOf raw) with
    | error message =>
      -- the error is suppressed, and the question stays active without an answer
      dsimp only [Except.toOption]
      rw [hnone]
      refine ⟨?_, fun i hi => .inl hi⟩
      simp [answered, Json.refuse, Json.suppressed, Json.ok_bind, ActiveQuestions.json, Question.json,
        pure, Except.pure]
    | ok value =>
      have hsome : entry q (some value) = [(q.id, value)] := rfl
      dsimp only [Except.toOption]
      rw [hsome]
      refine ⟨?_, fun i hi => ?_⟩
      · show Except.ok (⟨Dict.set (storedJson w.effective) _ value.json, _⟩ : Json.Active) = _
        rw [set_json hkeys]
        simp [ActiveQuestions.json, Question.json]
      · rwa [List.map_append, List.mem_append] at hi

theorem set_questions (s : Section) (questions : List Question) :
    s.dict.set "questions" (.list (questions.map Question.json)) =
      ({ s with questions := questions } : Section).dict := rfl

theorem activeSection_json {w : ActiveSections} {s : Section}
    (hformed : ∀ q ∈ s.questions, q.visibleWhen.all Condition.formed = true)
    (h : Fresh (w.effective.map Prod.fst) (s.questions.map (·.id))) :
    Json.activeSection validators answers s.json w.json =
        .ok (w.add validators (rawAnswers answers) s).json ∧
      ∀ i ∈ (w.add validators (rawAnswers answers) s).effective.map Prod.fst,
        i ∈ w.effective.map Prod.fst ∨ i ∈ s.questions.map (·.id) := by
  have hitems : Json.itemList s.json "questions" = .ok (s.questions.map Question.json) := rfl
  have hcopy : Json.copyOf s.json = .ok s.dict := rfl
  have hids : s.questions.flatMap (fun q => [q.id]) = s.questions.map (·.id) :=
    List.map_eq_flatMap.symm
  have hstep : ActiveQuestions.question validators (rawAnswers answers) = fun w q =>
      if q.visibleWhen.all (evaluateCondition w.effective) then
        w.add validators (rawAnswers answers) q else w :=
    funext fun w => funext fun q => ActiveQuestions.question_eq w q
  have hwalk := @eachVisible_json Question Json.Active ActiveQuestions Question.json Question.visibleWhen
    (fun q => [q.id]) Json.Active.effective (Json.activeQuestion validators answers)
    ActiveQuestions.json ActiveQuestions.effective (fun w => w.effective.map Prod.fst)
    (fun w q => w.add validators (rawAnswers answers) q)
    (fun q => by rw [Question.json, Json.getOf, get_visibleWhen]) (fun _ => rfl) s.questions
    (fun q _ w hw => activeQuestion_json hw) hformed { effective := w.effective }
  rw [hids] at hwalk
  obtain ⟨hquestions, hkeys⟩ := hwalk h
  unfold Json.activeSection ActiveSections.add
  rw [hitems, Json.ok_bind, hstep]
  have hstart : (⟨w.json.effective, []⟩ : Json.Active) =
      ({ effective := w.effective } : ActiveQuestions).json := rfl
  rw [hstart, hquestions, Json.ok_bind, hcopy, Json.ok_bind]
  refine ⟨?_, hkeys⟩
  simp only [ActiveSections.json, ActiveQuestions.json, set_questions, Section.json, List.map_append,
    List.map_cons, List.map_nil]
  rfl

/-- **The active sections of an accepted schema are written in the document.** -/
theorem getActiveSections_json (h : schema.accepted validators = true) :
    Json.getActiveSections validators answers schema.json =
      .ok ((getActiveSections validators (rawAnswers answers) schema).map Section.json) := by
  obtain ⟨hformed, hids⟩ := walk_of_accepted h
  have hfresh : Fresh (({} : ActiveSections).effective.map Prod.fst)
    (schema.sections.flatMap fun s => s.questions.map (·.id)) := hids
  have hitems : Json.itemList schema.json "sections" = .ok (schema.sections.map Section.json) := rfl
  have hwalk := (@eachVisible_json Section Json.Active ActiveSections Section.json Section.visibleWhen
    (fun s => s.questions.map (·.id)) Json.Active.effective (Json.activeSection validators answers)
    ActiveSections.json ActiveSections.effective (fun w => w.effective.map Prod.fst)
    (fun w s => w.add validators (rawAnswers answers) s)
    (fun s => by rw [Section.json, Json.getOf, get_sectionVisibleWhen]) (fun _ => rfl) schema.sections
    (fun s hs w hw => activeSection_json (hformed s hs).2 hw) (fun s hs => (hformed s hs).1) {} hfresh).1
  have hstart : (⟨[], []⟩ : Json.Active) = ({} : ActiveSections).json := rfl
  unfold Json.getActiveSections
  rw [(validateTemplateSchema_json validators schema).2 h, Json.ok_bind, hitems, Json.ok_bind, hstart,
    hwalk]
  rfl

end Active

section Format

variable {validators : Validators} {stored : List (QuestionId × Answer)} {schema : Schema}
  {str : Value → String}

theorem rawAnswers_storedJson : rawAnswers (storedJson stored) = storedAnswers stored := by
  funext id
  rw [rawAnswers, storedAnswers, storedJson, lookup_ofList, Option.map_map]
  congr 1
  funext a
  cases a with
  | bool b => rfl
  | text t => exact congrArg RawAnswer.text String.toList_ofList

variable (hstr : ∀ a : Answer, str a.json = String.ofList a.str)

include hstr

/-- The label of the first option with the value. -/
theorem optionLabel_json (value : Answer) (options : List ChoiceOption) :
    Json.optionLabel str value.json (options.map ChoiceOption.json) =
      .ok ((options.find? fun o => Answer.text o.value == value).map fun o => String.ofList o.label) := by
  induction options with
  | nil => rfl
  | cons o rest ih =>
    have hvalue : Json.getOf o.json "value" = .ok (Answer.text o.value).json := rfl
    have hcopy : Json.copyOf o.json = .ok [("value", .str (String.ofList o.value)),
        ("label", .str (String.ofList o.label))] := rfl
    rw [List.map_cons, Json.optionLabel, hvalue, Json.ok_bind, eq_json, ih]
    by_cases heq : (Answer.text o.value == value) = true
    · have hfind : (o :: rest).find? (fun o => Answer.text o.value == value) = some o :=
        List.find?_cons_of_pos heq
      rw [if_pos heq, hfind, hcopy]
      exact congrArg (fun label => Except.ok (some label)) (hstr (.text o.label))
    · have hfind : (o :: rest).find? (fun o => Answer.text o.value == value) =
          rest.find? fun o => Answer.text o.value == value := List.find?_cons_of_neg heq
      rw [if_neg heq, hfind]

/-- An answer is shown as by the rules. -/
theorem formatAnswer_json (q : Question) (value : Answer) :
    Json.formatAnswer str q.dict value.json = .ok (String.ofList (formatAnswer q value)) := by
  have hplain : Except.ok (str value.json) = (.ok (String.ofList value.str) : Json.Check String) :=
    congrArg Except.ok (hstr value)
  unfold Json.formatAnswer formatAnswer
  rw [get_type]
  cases htype : q.type with
  | boolean => cases value with
    | bool b => cases b <;> rfl
    | text t => exact hplain
  | choice =>
    show (Json.choiceOptions q.dict >>= fun options =>
      Json.optionLabel str value.json options >>= fun label => pure (label.getD (str value.json))) = _
    rw [choiceOptions_json, Json.ok_bind, optionLabel_json hstr, Json.ok_bind]
    dsimp only
    cases q.options.find? fun o => Answer.text o.value == value with
    | none => exact hplain
    | some o => rfl
  | date => cases value with
    | bool b => exact hplain
    | text t =>
      show Except.ok _ = _
      rw [String.toList_ofList]
      dsimp only
      cases fromIsoFormat t <;> rfl
  | text | textarea | email => exact hplain

theorem formatQuestion_json (s : Section) (q : Question) :
    Json.formatQuestion (storedJson stored) str (.str (String.ofList s.id)) (.str (String.ofList s.title))
        q.json = .ok ((formattedAnswer stored s q).map FormattedAnswer.json) := by
  have hid : Json.itemText q.json "id" = .ok (String.ofList q.id) := rfl
  have hlabel : Json.item q.json "label" = .ok (.str (String.ofList q.label)) := rfl
  have htype : Json.item q.json "type" = .ok (.str q.type.name) := rfl
  have hcopy : Json.copyOf q.json = .ok q.dict := rfl
  unfold Json.formatQuestion formattedAnswer
  rw [hid, Json.ok_bind, storedJson, lookup_ofList]
  cases stored.lookup q.id with
  | none => rfl
  | some value =>
    dsimp only [Option.map_some]
    rw [hlabel, Json.ok_bind, htype, Json.ok_bind, hcopy, Json.ok_bind, formatAnswer_json hstr]
    rfl

theorem formatSection_json (s : Section) :
    Json.formatSection (storedJson stored) str s.json =
      .ok ((s.questions.filterMap (formattedAnswer stored s)).map FormattedAnswer.json) := by
  have hid : Json.item s.json "id" = .ok (.str (String.ofList s.id)) := rfl
  have htitle : Json.item s.json "title" = .ok (.str (String.ofList s.title)) := rfl
  have hitems : Json.itemList s.json "questions" = .ok (s.questions.map Question.json) := rfl
  unfold Json.formatSection
  rw [hid, Json.ok_bind, htitle, Json.ok_bind, hitems, Json.ok_bind,
    mapM_ok (formatQuestion_json hstr s) s.questions, Json.ok_bind, List.filterMap_map,
    List.map_filterMap]
  rfl

/-- **The consolidated result of an accepted schema is that of the rules.** -/
theorem formatAnswers_json (h : schema.accepted validators = true) :
    Json.formatAnswers validators (storedJson stored) str schema.json =
      .ok ((formatAnswers validators stored schema).map FormattedAnswer.json) := by
  unfold Json.formatAnswers formatAnswers
  rw [getActiveSections_json h, rawAnswers_storedJson, Json.ok_bind, mapM_ok (formatSection_json hstr),
    Json.ok_bind, List.flatMap_def, List.map_flatten, List.map_map]
  rfl

end Format

end SheepContabil.SC06
