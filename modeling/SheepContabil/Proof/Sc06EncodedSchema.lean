import SheepContabil.Proof.Sc06Encoding

/-!
# SC-06: the validator on the document of a schema

The rules check the conditions of a place against the questions before it, and the validator looks
them up among all questions, with their positions.

* `validateQuestion_json`, `validateCondition_json`: a question, and a condition, are checked alike.
* `validateTemplateSchema_json`: **the document of a schema is accepted when the schema is.**
-/

namespace SheepContabil.SC06

open Py

section Texts

/-- A text that may not be blank. -/
theorem requireNonEmptyText_json (t : Text) (message : String) :
    Json.requireNonEmptyText (.str (String.ofList t)) message =
      if isNonEmptyText t then .ok (String.ofList (strip t)) else Json.refuse message := by
  unfold Json.requireNonEmptyText isNonEmptyText
  dsimp only
  rw [isBlank_eq, String.toList_ofList, Py.strip, String.toList_ofList]
  by_cases h : strip t = []
  · rw [if_pos (decide_eq_true h), if_neg (by simp [h])]
  · rw [if_neg (by simp [h]), if_pos (by simpa using h)]
    rfl

/-- A character of an identifier is no blank. -/
theorem not_isSpace_of_identifier {c : Char}
    (h : (c.isLower || c.isDigit || c == '_') = true) : isSpace c = false := by
  have hrange : 48 ≤ c.toNat ∧ c.toNat ≤ 57 ∨ 97 ≤ c.toNat ∧ c.toNat ≤ 122 ∨ c.toNat = 95 := by
    rw [Bool.or_eq_true, Bool.or_eq_true, beq_iff_eq] at h
    rcases h with (h | h) | rfl
    · have hlower : (decide (c.val ≥ 'a'.val) && decide (c.val ≤ 'z'.val)) = true := h
      obtain ⟨hleft, hright⟩ := Bool.and_eq_true_iff.1 hlower
      exact .inr (.inl ⟨of_decide_eq_true hleft, of_decide_eq_true hright⟩)
    · have hdigit : (decide (c.val ≥ '0'.val) && decide (c.val ≤ '9'.val)) = true := h
      obtain ⟨hleft, hright⟩ := Bool.and_eq_true_iff.1 hdigit
      exact .inl ⟨of_decide_eq_true hleft, of_decide_eq_true hright⟩
    · exact .inr (.inr rfl)
  have hspaces : ∀ n, 48 ≤ n ∧ n ≤ 57 ∨ 97 ≤ n ∧ n ≤ 122 ∨ n = 95 → Str.isSpace n = false := by
    intro n hn
    simp only [Str.isSpace, Bool.or_eq_false_iff, decide_eq_false_iff_not, beq_eq_false_iff_ne]
    omega
  exact hspaces _ hrange

theorem strip_identifier {t : Text} (h : isIdentifier t = true) : strip t = t ∧ t ≠ [] := by
  cases t with
  | nil => cases h
  | cons c rest =>
    rw [isIdentifier, Bool.and_eq_true, Bool.and_eq_true, List.all_eq_true] at h
    have hall : ∀ d ∈ c :: rest, isSpace d = false := by
      intro d hd
      rcases List.mem_cons.1 hd with rfl | hd
      · exact not_isSpace_of_identifier (by rw [h.1.1]; rfl)
      · exact not_isSpace_of_identifier (h.2 d hd)
    have htrimmed : Trimmed isSpace (c :: rest) :=
      ⟨fun d hd => hall d (List.mem_of_mem_head? hd), fun d hd => hall d (List.mem_of_getLast? hd)⟩
    exact ⟨htrimmed.stripOf_eq, List.cons_ne_nil c rest⟩

theorem validateIdentifier_json (t : Text) (message : String) :
    Json.validateIdentifier (.str (String.ofList t)) message =
      if isIdentifier t then .ok (String.ofList t) else Json.refuse message := by
  unfold Json.validateIdentifier
  rw [requireNonEmptyText_json]
  by_cases h : isIdentifier t = true
  · obtain ⟨hstrip, hne⟩ := strip_identifier h
    have htext : isNonEmptyText t = true := by rw [isNonEmptyText, hstrip]; simpa using hne
    rw [if_pos htext, Json.ok_bind, hstrip, if_pos h, if_pos ⟨rfl, by rwa [String.toList_ofList]⟩]
    rfl
  · rw [if_neg h]
    by_cases htext : isNonEmptyText t = true
    · rw [if_pos htext, Json.ok_bind, if_neg]
      rintro ⟨hsame, hid⟩
      rw [← String.ofList_injective (Option.some.inj hsame), String.toList_ofList] at hid
      exact h hid
    · rw [if_neg htext]
      rfl

end Texts

section Checks

/-- `_validate_question`, of one option. -/
def ChoiceOption.accepted (o : ChoiceOption) : Bool :=
  strip o.value == o.value && isNonEmptyText o.value && isNonEmptyText o.label

theorem ite_refuse_ok {α : Type} {p : Prop} [Decidable p] {x : Json.Check α} {message : String} {a : α} :
    (if p then x else Json.refuse message) = .ok a ↔ p ∧ x = .ok a := by
  by_cases h : p
  · rw [if_pos h, and_iff_right h]
  · rw [if_neg h]
    exact iff_of_false (fun h => by cases h) fun hp => h hp.1

theorem refuse_ite_ok {α : Type} {p : Prop} [Decidable p] {x : Json.Check α} {message : String} {a : α} :
    (if p then Json.refuse message else x) = .ok a ↔ ¬ p ∧ x = .ok a := by
  by_cases h : p
  · rw [if_pos h]
    exact iff_of_false (fun h => by cases h) fun hp => hp.1 h
  · rw [if_neg h, and_iff_right h]

/-- One check and then another. -/
theorem then_ok {α : Type} {x : Json.Check Unit} {y : Json.Check α} {a : α} :
    (x >>= fun _ => y) = .ok a ↔ x = .ok () ∧ y = .ok a := by
  cases x with
  | error e => exact iff_of_false (fun h => by cases h) fun h => by cases h.1
  | ok u => exact (and_iff_right rfl).symm

theorem nonEmptyText_ok {t : Text} {message s : String} :
    Json.requireNonEmptyText (.str (String.ofList t)) message = .ok s ↔
      isNonEmptyText t = true ∧ s = String.ofList (strip t) := by
  rw [requireNonEmptyText_json, ite_refuse_ok, Except.ok.injEq, eq_comm (a := s)]

theorem contains_ofList {ids : List Text} {id : Text} :
    (ids.map String.ofList).contains (String.ofList id) = true ↔ id ∈ ids := by
  rw [List.contains_iff_mem, List.mem_map_of_injective fun _ _ h => String.ofList_injective h]

theorem validateOption_json {questionId : String} {values : List Text} {o : ChoiceOption} {v : String} :
    Json.validateOption questionId (values.map String.ofList) o.json = .ok v ↔
      o.accepted = true ∧ o.value ∉ values ∧ v = String.ofList o.value := by
  have hmapping : ∀ message, Json.requireMapping o.json message =
      .ok [("value", .str (String.ofList o.value)), ("label", .str (String.ofList o.label))] := fun _ => rfl
  have hkeys : ∀ context, Json.validateAllowedKeys
      [("value", .str (String.ofList o.value)), ("label", .str (String.ofList o.label))]
      ["value", "label"] context = .ok () := fun _ => rfl
  have hvalue : Dict.get [("value", .str (String.ofList o.value)),
      ("label", .str (String.ofList o.label))] "value" = .str (String.ofList o.value) := rfl
  have hlabel : Dict.get [("value", .str (String.ofList o.value)),
      ("label", .str (String.ofList o.label))] "label" = .str (String.ofList o.label) := rfl
  have hcontains := @contains_ofList values o.value
  unfold Json.validateOption ChoiceOption.accepted
  rw [hmapping, Json.ok_bind, hkeys, Json.ok_bind, hvalue, hlabel, Bool.and_eq_true, Bool.and_eq_true,
    beq_iff_eq]
  constructor
  · intro h
    obtain ⟨value, htext, h⟩ := bind_eq_ok.1 h
    obtain ⟨hnonEmpty, rfl⟩ := nonEmptyText_ok.1 htext
    obtain ⟨hstrip, h⟩ := ite_refuse_ok.1 h
    have hstrip : strip o.value = o.value :=
      (String.ofList_injective (Option.some.inj hstrip)).symm
    obtain ⟨_, hlabelText, h⟩ := bind_eq_ok.1 h
    obtain ⟨hnew, h⟩ := refuse_ite_ok.1 h
    rw [hstrip] at hnew h
    exact ⟨⟨⟨hstrip, hnonEmpty⟩, (nonEmptyText_ok.1 hlabelText).1⟩, fun hmem => hnew (hcontains.2 hmem),
      (Except.ok.inj h).symm⟩
  · rintro ⟨⟨⟨hstrip, htext⟩, hlabelText⟩, hnew, rfl⟩
    refine bind_eq_ok.2 ⟨_, nonEmptyText_ok.2 ⟨htext, rfl⟩, ite_refuse_ok.2 ⟨?_, ?_⟩⟩
    · rw [hstrip]
      rfl
    · refine bind_eq_ok.2 ⟨_, nonEmptyText_ok.2 ⟨hlabelText, rfl⟩, refuse_ite_ok.2 ⟨?_, ?_⟩⟩
      · rw [hstrip, hcontains]
        exact hnew
      · rw [hstrip]
        rfl

theorem nodup_append_singleton_iff {α : Type} {l : List α} {a : α} :
    (l ++ [a]).Nodup ↔ a ∉ l ∧ l.Nodup := by
  rw [← List.concat_eq_append, List.nodup_concat]

theorem validateOptions_json {questionId : String} : ∀ {options : List ChoiceOption} {values : List Text},
    values.Nodup →
    (Json.validateOptions questionId (options.map ChoiceOption.json) (values.map String.ofList) = .ok () ↔
      options.all ChoiceOption.accepted = true ∧ (values ++ options.map (·.value)).Nodup) := by
  intro options
  induction options with
  | nil =>
    intro values hvalues
    exact iff_of_true rfl ⟨rfl, by simpa using hvalues⟩
  | cons o rest ih =>
    intro values hvalues
    have hsplit : values ++ (o :: rest).map (·.value) = values ++ [o.value] ++ rest.map (·.value) := by simp
    have hmap : values.map String.ofList ++ [String.ofList o.value] =
        (values ++ [o.value]).map String.ofList := by simp
    rw [List.map_cons, Json.validateOptions, bind_eq_ok, List.all_cons, Bool.and_eq_true, hsplit]
    constructor
    · rintro ⟨v, hv, hrest⟩
      obtain ⟨ho, hnew, rfl⟩ := validateOption_json.1 hv
      have hnodup : (values ++ [o.value]).Nodup := nodup_append_singleton_iff.2 ⟨hnew, hvalues⟩
      rw [hmap] at hrest
      obtain ⟨hall, hnodup'⟩ := (ih hnodup).1 hrest
      exact ⟨⟨ho, hall⟩, hnodup'⟩
    · rintro ⟨⟨ho, hall⟩, hnodup⟩
      have hhead := (List.nodup_append.1 hnodup).1
      have hnew : o.value ∉ values := (nodup_append_singleton_iff.1 hhead).1
      refine ⟨_, validateOption_json.2 ⟨ho, hnew, rfl⟩, ?_⟩
      rw [hmap]
      exact (ih hhead).2 ⟨hall, hnodup⟩

variable {q : Question}

theorem get_options : Dict.get q.dict "options" =
    if q.options = [] then .none else .list (q.options.map ChoiceOption.json) := by
  rw [Dict.get, lookup_options, Question.optionsJson]
  split_ifs <;> rfl

theorem validateChoice_json (questionId : String) :
    Json.validateChoice q.dict questionId = .ok () ↔
      (if q.type = .choice then
        !q.options.isEmpty && q.options.all ChoiceOption.accepted && decide (q.options.map (·.value)).Nodup
      else q.options.isEmpty) = true := by
  have htype : (Dict.get q.dict "type").str? = some "choice" ↔ q.type = .choice := by
    rw [get_type]
    cases q.type <;> simp [QuestionType.name]
  unfold Json.validateChoice
  by_cases hchoice : q.type = .choice
  · rw [if_pos (htype.2 hchoice), if_pos hchoice, get_options]
    by_cases hnone : q.options = []
    · rw [if_pos hnone, hnone]
      exact iff_of_false (fun h => by cases h) Bool.false_ne_true
    · have hoptions : (q.options.map ChoiceOption.json).isEmpty = false := by simpa using hnone
      rw [if_neg hnone, Json.requireList, Json.ok_bind, hoptions, if_neg Bool.false_ne_true]
      have hall := @validateOptions_json questionId q.options [] List.nodup_nil
      rw [List.nil_append] at hall
      refine hall.trans ?_
      simp [hnone]
  · rw [if_neg fun h => hchoice (htype.1 h), if_neg hchoice, lookup_options, Question.optionsJson,
      refuse_ite_ok]
    by_cases hnone : q.options = []
    · simp [hnone]
    · simp [hnone]

theorem optionalNonNegativeInt_json (length : Option ℕ) (questionId : String) :
    Json.optionalNonNegativeInt ((lengthJson length).getD .none) questionId = .ok length := by
  cases length with
  | none => rfl
  | some n =>
    rw [lengthJson, Option.map_some, Option.getD_some, Json.optionalNonNegativeInt, if_neg (by omega)]
    rfl

theorem validateLengths_json (questionId : String) :
    Json.validateLengths q.dict questionId = .ok () ↔
      ((decide (q.type = .text ∨ q.type = .textarea ∨ q.type = .email) ||
          q.minLength.isNone && q.maxLength.isNone) &&
        q.minLength.all fun minimum => q.maxLength.all fun maximum => decide (minimum ≤ maximum)) = true := by
  have hkeys : ((q.lengthsJson.map Prod.fst).any fun k => !Json.lengthKeys.contains k) = false := by
    rw [Question.lengthsJson]
    cases q.minLength <;> cases q.maxLength <;> rfl
  have hempty : q.lengthsJson.isEmpty = (q.minLength.isNone && q.maxLength.isNone) := by
    rw [Question.lengthsJson]
    cases q.minLength <;> cases q.maxLength <;> rfl
  have htype : (Dict.get q.dict "type").str? = some q.type.name := rfl
  have hlengthTypes : Json.lengthTypes.contains q.type.name =
      decide (q.type = .text ∨ q.type = .textarea ∨ q.type = .email) := by
    cases q.type <;> rfl
  unfold Json.validateLengths
  rw [get_validation]
  dsimp only
  rw [Json.requireMapping, Json.ok_bind, hkeys, if_neg Bool.false_ne_true, htype, hempty, get_minLength,
    get_maxLength, optionalNonNegativeInt_json, optionalNonNegativeInt_json, Json.ok_bind, Json.ok_bind]
  dsimp only
  rw [refuse_ite_ok, hlengthTypes]
  refine (and_congr ?_ ?_).trans Bool.and_eq_true_iff.symm
  · cases decide (q.type = .text ∨ q.type = .textarea ∨ q.type = .email) <;>
      cases (q.minLength.isNone && q.maxLength.isNone) <;> simp
  · cases q.minLength with
    | none => exact iff_of_true rfl rfl
    | some minimum => cases q.maxLength with
      | none => exact iff_of_true rfl rfl
      | some maximum => exact refuse_ite_ok.trans (by simp [pure, Except.pure])

/-- `_validate_question`, without the identifier. -/
theorem validateQuestion_json (hid : isIdentifier q.id = true) (questionId : String) :
    Json.validateQuestion q.dict questionId = .ok () ↔ q.accepted = true := by
  have hkeys : ∀ context, Json.validateAllowedKeys q.dict Json.questionKeys context = .ok () := by
    intro context
    have hnone : ((q.dict.map Prod.fst).filter fun k => !Json.questionKeys.contains k) = [] := by
      rw [Question.dict]
      cases q.optionsJson <;> cases q.visibleWhen <;> rfl
    rw [Json.validateAllowedKeys, hnone, if_pos rfl]
  have hlabel : Dict.get q.dict "label" = .str (String.ofList q.label) := rfl
  have hrequired : ((q.dict.lookup "required").getD (.bool false)).bool?.isSome = true := rfl
  have hoptional : ∀ key message, key ∈ ["help_text", "placeholder"] →
      Json.validateOptionalText q.dict key message = .ok () := by
    intro key message hkey
    have hlookup : q.dict.lookup key = none := by
      rw [Question.dict]
      simp only [List.mem_cons, List.not_mem_nil, or_false] at hkey
      rcases hkey with rfl | rfl <;> cases q.optionsJson <;> cases q.visibleWhen <;> rfl
    rw [Json.validateOptionalText, hlookup]
  have htype : Json.isIn (Dict.get q.dict "type") Json.questionTypes = .ok true := by
    rw [get_type]
    cases q.type <;> rfl
  have haccepted : q.accepted = true ↔ isNonEmptyText q.label = true ∧
      (if q.type = .choice then
        !q.options.isEmpty && q.options.all ChoiceOption.accepted && decide (q.options.map (·.value)).Nodup
      else q.options.isEmpty) = true ∧
      ((decide (q.type = .text ∨ q.type = .textarea ∨ q.type = .email) ||
          q.minLength.isNone && q.maxLength.isNone) &&
        q.minLength.all fun minimum => q.maxLength.all fun maximum => decide (minimum ≤ maximum)) = true := by
    unfold Question.accepted ChoiceOption.accepted
    rw [hid, Bool.true_and, Bool.and_assoc, Bool.and_eq_true, Bool.and_eq_true, Bool.and_eq_true,
      and_assoc]
  rw [haccepted, ← validateChoice_json questionId, ← validateLengths_json questionId]
  unfold Json.validateQuestion Json.validateLabel Json.validateDetails
  rw [hkeys, Json.ok_bind, hlabel, htype, hrequired, if_pos rfl, hoptional _ _ (by simp), Json.ok_bind,
    hoptional _ _ (by simp), Json.ok_bind, requireNonEmptyText_json]
  by_cases hnonEmpty : isNonEmptyText q.label = true
  · rw [if_pos hnonEmpty, and_iff_right hnonEmpty]
    show (Json.validateChoice q.dict questionId >>= fun _ =>
      Json.validateLengths q.dict questionId) = .ok () ↔ _
    exact then_ok
  · rw [if_neg hnonEmpty]
    exact iff_of_false (fun h => by cases h) fun h => hnonEmpty h.1

end Checks

section Conditions

/-- The definitions of some questions, numbered from a position. -/
def definitionsJson : ℕ → List Question → Json.Definitions
  | _, [] => []
  | position, q :: rest => (String.ofList q.id, position, q.dict) :: definitionsJson (position + 1) rest

theorem length_definitionsJson (position : ℕ) (questions : List Question) :
    (definitionsJson position questions).length = questions.length := by
  induction questions generalizing position with
  | nil => rfl
  | cons q rest ih => rw [definitionsJson, List.length_cons, List.length_cons, ih]

theorem definitionsJson_append (position : ℕ) (questions more : List Question) :
    definitionsJson position (questions ++ more) =
      definitionsJson position questions ++ definitionsJson (position + questions.length) more := by
  induction questions generalizing position with
  | nil => rfl
  | cons q rest ih =>
    have hposition : position + 1 + rest.length = position + (q :: rest).length := by
      rw [List.length_cons]
      omega
    rw [List.cons_append, definitionsJson, ih, hposition]
    rfl

/-- A question is found in the definitions by its position, and among the questions before a place if
the position is. -/
theorem lookup_definitionsJson (field : QuestionId) : ∀ (questions : List Question) (position n : ℕ),
    (definitionsJson position questions).lookup (String.ofList field) = none ∧
        (questions.take n).find? (fun q => q.id == field) = none ∨
      ∃ i q, (definitionsJson position questions).lookup (String.ofList field) = some (i, q.dict) ∧
        position ≤ i ∧
        (questions.take n).find? (fun q => q.id == field) = if i < position + n then some q else none := by
  intro questions
  induction questions with
  | nil => exact fun position n => .inl ⟨rfl, by rw [List.take_nil]; rfl⟩
  | cons q rest ih =>
    intro position n
    rw [definitionsJson, List.lookup_cons, ofList_beq]
    by_cases hid : q.id = field
    · -- the first question of the name is the one that both find
      refine .inr ⟨position, q, ?_, le_rfl, ?_⟩
      · rw [hid, beq_self_eq_true]
      · cases n with
        | zero => rw [List.take_zero, if_neg (by omega)]; rfl
        | succ n => rw [List.take_succ_cons, List.find?_cons_of_pos (by simpa using hid), if_pos (by omega)]
    · have hne : (field == q.id) = false := beq_false_of_ne (Ne.symm hid)
      rw [hne]
      dsimp only
      cases n with
      | zero =>
        rcases ih (position + 1) 0 with ⟨hnone, -⟩ | ⟨i, q', hlookup, hle, -⟩
        · exact .inl ⟨hnone, rfl⟩
        · refine .inr ⟨i, q', hlookup, by omega, ?_⟩
          rw [List.take_zero, if_neg (by omega)]
          rfl
      | succ n =>
        rw [List.take_succ_cons, List.find?_cons_of_neg (by simpa using hid)]
        rcases ih (position + 1) n with ⟨hnone, hfind⟩ | ⟨i, q', hlookup, hle, hfind⟩
        · exact .inl ⟨hnone, hfind⟩
        · refine .inr ⟨i, q', hlookup, by omega, ?_⟩
          rw [hfind]
          by_cases hi : i < position + 1 + n
          · rw [if_pos hi, if_pos (by omega)]
          · rw [if_neg hi, if_neg (by omega)]

variable (validators : Validators)

/-- A value to compare with is valid in the document when the question compares with it. -/
theorem validateConditionValue_json (q : Question) (value : Answer) (context : String) :
    Json.validateConditionValue validators q.dict value.json context = .ok () ↔
      q.comparesWith validators value = true := by
  unfold Json.validateConditionValue Question.comparesWith
  rw [lookup_type]
  by_cases hboolean : q.type = .boolean
  · rw [hboolean]
    cases value with
    | bool b => exact iff_of_true rfl rfl
    | text t => exact iff_of_false (fun h => by cases h) Bool.false_ne_true
  · cases value with
    | bool b =>
      have hfalse : (q.type == QuestionType.boolean) = false := by simpa using hboolean
      dsimp only
      rw [hfalse]
      refine iff_of_false (fun h => ?_) Bool.false_ne_true
      cases htype : q.type <;> rw [htype] at h <;>
        first
        | exact hboolean htype
        | cases h
    | text t =>
      have htype : (q.type != QuestionType.boolean) = true := by simpa using hboolean
      have hraw : Json.coerceRaw validators q.dict (.str (String.ofList t)) =
          answered (coerceAnswer validators q (.text t)) := by
        have h := coerceRaw_json q validators (.str (String.ofList t))
        rwa [rawOf, String.toList_ofList] at h
      have hname : Value.str q.type.name ≠ .str "boolean" := by
        cases hq : q.type <;> first
          | exact absurd hq hboolean
          | exact fun h => absurd (Value.str.inj h) (by decide)
      split
      · next h => cases h
      · next h => exact absurd (Option.some.inj h) hname
      · dsimp only [Answer.json]
        rw [hraw, htype, Bool.true_and]
        cases coerceAnswer validators q (.text t) with
        | error message => exact iff_of_false (fun h => by cases h) (by simp [Except.toOption])
        | ok a =>
          have heq : Value.eq a.json (.str (String.ofList t)) = (a == .text t) := eq_json a (.text t)
          dsimp only [answered]
          rw [heq, ite_refuse_ok]
          simp [Except.toOption]

variable {validators : Validators} {questions : List Question} {n : ℕ} {context : String}

theorem some_and_iff {α : Type} {a : α} {P : α → Prop} : (∃ b, some a = some b ∧ P b) ↔ P a := by
  simp

/-- A comparison is valid in the document when its question comes before, and compares. -/
theorem validateLeaf_json {operator : String} {field : QuestionId} {value : Value} {P : Question → Prop}
    (hvalue : ∀ q : Question,
      (if (Value.str operator).str? = some "in" then do
          let values ← Json.requireList value
            ("O operador \"in\" da condição de " ++ context ++ " exige uma lista.")
          if values.isEmpty then
            Json.refuse ("O operador \"in\" da condição de " ++ context ++ " exige ao menos um valor.")
          else Json.validateValues validators context q.dict values
        else Json.validateConditionValue validators q.dict value context) = .ok () ↔ P q) :
    Json.validateLeaf validators (definitionsJson 0 questions) n context
        [("operator", .str operator), ("field", .str (String.ofList field)), ("value", value)]
        (.str operator) = .ok () ↔
      ∃ q, (questions.take n).find? (fun q => q.id == field) = some q ∧ P q := by
  have hkeys : Json.validateAllowedKeys
      [("operator", .str operator), ("field", .str (String.ofList field)), ("value", value)]
      ["field", "operator", "value"] ("A condição de " ++ context) = .ok () := rfl
  have hfield : (Dict.get [("operator", .str operator), ("field", .str (String.ofList field)),
      ("value", value)] "field").str? = some (String.ofList field) := rfl
  have hlookup : ([("operator", .str operator), ("field", .str (String.ofList field)),
      ("value", value)] : Dict).lookup "value" = some value := rfl
  unfold Json.validateLeaf
  rw [hkeys, Json.ok_bind, hfield]
  dsimp only
  -- the definitions hold the later questions as well, with a position that is too high
  rcases lookup_definitionsJson field questions 0 n with ⟨hnone, hfind⟩ | ⟨i, q, hsome, -, hfind⟩
  · rw [hnone, hfind]
    refine iff_of_false (fun h => by cases h) ?_
    rintro ⟨q, h, -⟩
    cases h
  · rw [hsome, hfind, Nat.zero_add, hlookup]
    dsimp only
    rw [refuse_ite_ok, hvalue, not_le]
    by_cases hi : i < n
    · rw [if_pos hi, and_iff_right hi]
      exact some_and_iff.symm
    · rw [if_neg hi]
      refine iff_of_false (fun h => hi h.1) ?_
      rintro ⟨q', h, -⟩
      cases h

theorem validateValues_json (q : Question) (values : List Answer) :
    Json.validateValues validators context q.dict (values.map Answer.json) = .ok () ↔
      values.all (q.comparesWith validators) = true := by
  induction values with
  | nil => exact iff_of_true rfl rfl
  | cons v rest ih =>
    rw [List.map_cons, Json.validateValues, List.all_cons, Bool.and_eq_true, ← ih,
      ← validateConditionValue_json validators q v context]
    exact then_ok

/-- A condition that compares, with a level left for it. -/
theorem validateCondition_leaf {operator : String} (hoperator : operator ∈ Json.leafOperators)
    (levels : ℕ) (field : QuestionId) (value : Value) :
    Json.validateCondition validators (definitionsJson 0 questions) n context (levels + 1)
        (leafJson operator field value) =
      Json.validateLeaf validators (definitionsJson 0 questions) n context
        [("operator", .str operator), ("field", .str (String.ofList field)), ("value", value)]
        (.str operator) := by
  simp only [Json.leafOperators, List.mem_cons, List.not_mem_nil, or_false] at hoperator
  rcases hoperator with rfl | rfl | rfl <;> rfl

theorem comparable_iff {before : List Question} {field : QuestionId} {value : Answer} :
    comparable validators before field value = true ↔
      ∃ q, before.find? (fun q => q.id == field) = some q ∧ q.comparesWith validators value = true := by
  unfold comparable
  cases before.find? (fun q => q.id == field) with
  | none => simp
  | some q => exact (@some_and_iff Question q (·.comparesWith validators value = true)).symm

theorem allComparable_iff {before : List Question} {field : QuestionId} {values : List Answer}
    (hne : values.isEmpty = false) :
    values.all (comparable validators before field) = true ↔
      ∃ q, before.find? (fun q => q.id == field) = some q ∧
        values.all (q.comparesWith validators) = true := by
  have hcomparable : ∀ q, before.find? (fun q => q.id == field) = some q → ∀ value,
      comparable validators before field value = q.comparesWith validators value := by
    intro q hq value
    rw [comparable, hq]
    rfl
  constructor
  · intro h
    rw [List.all_eq_true] at h
    cases values with
    | nil => cases hne
    | cons v rest =>
      obtain ⟨q, hq, -⟩ := comparable_iff.1 (h v List.mem_cons_self)
      refine ⟨q, hq, List.all_eq_true.2 fun value hvalue => ?_⟩
      rw [← hcomparable q hq]
      exact h value hvalue
  · rintro ⟨q, hq, hall⟩
    refine List.all_eq_true.2 fun value hvalue => ?_
    rw [hcomparable q hq]
    exact List.all_eq_true.1 hall value hvalue

/-- The list of an `in` is valid in the document when the question compares with all its values. -/
theorem validateList_json {operator : String} (hoperator : operator = "in") {values : List Answer}
    (q : Question) :
    (if (Value.str operator).str? = some "in" then do
        let values ← Json.requireList (.list (values.map Answer.json))
          ("O operador \"in\" da condição de " ++ context ++ " exige uma lista.")
        if values.isEmpty then
          Json.refuse ("O operador \"in\" da condição de " ++ context ++ " exige ao menos um valor.")
        else Json.validateValues validators context q.dict values
      else
        Json.validateConditionValue validators q.dict (.list (values.map Answer.json)) context) =
        .ok () ↔
      values.isEmpty = false ∧ values.all (q.comparesWith validators) = true := by
  have hin : (Value.str operator).str? = some "in" := congrArg some hoperator
  have hempty : (values.map Answer.json).isEmpty = values.isEmpty := by cases values <;> rfl
  rw [if_pos hin, Json.requireList, Json.ok_bind, hempty, refuse_ite_ok, validateValues_json,
    Bool.not_eq_true]

/-- A composite, with a level left for it. -/
theorem validateComposite_json {operator : String} (hoperator : operator ∈ Json.compositeOperators)
    (levels : ℕ) (conditions : List Condition) :
    Json.validateCondition validators (definitionsJson 0 questions) n context (levels + 1)
        (.dict [("operator", .str operator), ("conditions", .list (conditionsJson conditions))]) = .ok () ↔
      conditions.isEmpty = false ∧
        Json.each (Json.validateCondition validators (definitionsJson 0 questions) n context levels)
          (conditionsJson conditions) = .ok () := by
  have hempty : (conditionsJson conditions).isEmpty = conditions.isEmpty := by
    cases conditions <;> rfl
  have hchildren : Json.validateCondition validators (definitionsJson 0 questions) n context (levels + 1)
      (.dict [("operator", .str operator), ("conditions", .list (conditionsJson conditions))]) =
      (if (conditionsJson conditions).isEmpty then
          Json.refuse ("A condição composta de " ++ context ++ " deve conter condições filhas.")
        else pure (conditionsJson conditions)) >>= fun children =>
          Json.each (Json.validateCondition validators (definitionsJson 0 questions) n context levels)
            children := by
    simp only [Json.compositeOperators, List.mem_cons, List.not_mem_nil, or_false] at hoperator
    rcases hoperator with rfl | rfl <;> rfl
  rw [hchildren, hempty]
  cases conditions.isEmpty with
  | true => exact iff_of_false (fun h => by cases h) fun h => by cases h.1
  | false => exact (and_iff_right rfl).symm

mutual

/-- **A condition is valid in the document when it is accepted.** -/
theorem validateCondition_json : ∀ (c : Condition) (levels depth : ℕ), levels + depth = 10 →
    (Json.validateCondition validators (definitionsJson 0 questions) n context levels c.json = .ok () ↔
      c.accepted validators (questions.take n) depth = true)
  | c, 0, depth, h => by
    -- the code counts the levels up to ten, and the fuel is what is left of them
    have hdepth : ¬ depth < 10 := by omega
    refine iff_of_false (fun h => by cases h) ?_
    cases c <;> simp [Condition.accepted, hdepth]
  | .equals field value, levels + 1, depth, h => by
    rw [Condition.json, validateCondition_leaf (by decide), Condition.accepted, Bool.and_eq_true,
      decide_eq_true_eq, and_iff_right (by omega), comparable_iff]
    exact validateLeaf_json fun q => by
      rw [if_neg (by decide), validateConditionValue_json]
  | .notEquals field value, levels + 1, depth, h => by
    rw [Condition.json, validateCondition_leaf (by decide), Condition.accepted, Bool.and_eq_true,
      decide_eq_true_eq, and_iff_right (by omega), comparable_iff]
    exact validateLeaf_json fun q => by
      rw [if_neg (by decide), validateConditionValue_json]
  | .isIn field values, levels + 1, depth, h => by
    rw [Condition.json, validateCondition_leaf (by decide), Condition.accepted, Bool.and_eq_true,
      Bool.and_eq_true, and_assoc, decide_eq_true_eq, and_iff_right (by omega), Bool.not_eq_true']
    -- the code looks the question up once, and the rules once for each value
    refine (validateLeaf_json (@validateList_json validators context "in" rfl values)).trans ?_
    constructor
    · rintro ⟨q, hq, hne, hall⟩
      exact ⟨hne, (allComparable_iff hne).2 ⟨q, hq, hall⟩⟩
    · rintro ⟨hne, hall⟩
      obtain ⟨q, hq, hall⟩ := (allComparable_iff hne).1 hall
      exact ⟨q, hq, hne, hall⟩
  | .all conditions, levels + 1, depth, h => by
    have hdepth : depth < 10 := by omega
    rw [Condition.json, validateComposite_json (by decide), Condition.accepted, Bool.and_eq_true,
      Bool.and_eq_true, and_assoc, decide_eq_true_eq, and_iff_right hdepth, Bool.not_eq_true',
      each_json conditions levels (depth + 1) (by omega)]
  | .any conditions, levels + 1, depth, h => by
    have hdepth : depth < 10 := by omega
    rw [Condition.json, validateComposite_json (by decide), Condition.accepted, Bool.and_eq_true,
      Bool.and_eq_true, and_assoc, decide_eq_true_eq, and_iff_right hdepth, Bool.not_eq_true',
      each_json conditions levels (depth + 1) (by omega)]

theorem each_json : ∀ (conditions : List Condition) (levels depth : ℕ), levels + depth = 10 →
    (Json.each (Json.validateCondition validators (definitionsJson 0 questions) n context levels)
        (conditionsJson conditions) = .ok () ↔
      acceptedAll validators (questions.take n) depth conditions = true)
  | [], _, _, _ => iff_of_true rfl rfl
  | c :: rest, levels, depth, h => by
    rw [conditionsJson, Json.each, acceptedAll, Bool.and_eq_true, ← validateCondition_json c levels depth h,
      ← each_json rest levels depth h]
    exact then_ok

end

/-- A `visible_when` is valid in the document when it is accepted. -/
theorem validateVisibleWhen_json (condition : Option Condition) :
    Json.validateVisibleWhen validators (definitionsJson 0 questions) n context
        ((condition.map Condition.json).getD .none) = .ok () ↔
      acceptedCondition validators (questions.take n) condition = true := by
  cases condition with
  | none => exact iff_of_true rfl rfl
  | some c =>
    have hwritten : Json.validateVisibleWhen validators (definitionsJson 0 questions) n context c.json =
        Json.validateCondition validators (definitionsJson 0 questions) n context 10 c.json := by
      cases c <;> rfl
    have hcondition := @validateCondition_json validators questions n context c 10 0 rfl
    rwa [← hwritten] at hcondition

variable (validators)

/-- The conditions of the questions of a section, after some questions and before others. -/
theorem conditionsOfQuestions_json {position : ℕ} : ∀ questions before after : List Question,
    Json.conditionsOfQuestions validators (definitionsJson 0 (before ++ (questions ++ after)))
        before.length (questions.map Question.json) = .ok position ↔
      acceptedQuestions validators before questions = true ∧
        position = (before ++ questions).length := by
  intro questions
  induction questions with
  | nil =>
    intro before after
    rw [List.append_nil]
    exact (Except.ok.injEq _ _).to_iff.trans (eq_comm.trans (and_iff_right rfl).symm)
  | cons q rest ih =>
    intro before after
    have hid : Json.itemText q.json "id" = .ok (String.ofList q.id) := rfl
    have hcondition : Json.getOf q.json "visible_when" =
        .ok ((q.visibleWhen.map Condition.json).getD .none) := by
      rw [Question.json, Json.getOf, get_visibleWhen]
    have htake : (before ++ (q :: rest ++ after)).take before.length = before := List.take_left' rfl
    have hsplit : before ++ (q :: rest ++ after) = before ++ [q] ++ (rest ++ after) := by simp
    have hlength : before.length + 1 = (before ++ [q]).length := by simp
    have happend : before ++ q :: rest = before ++ [q] ++ rest := by simp
    rw [List.map_cons, Json.conditionsOfQuestions, hid, Json.ok_bind, hcondition, Json.ok_bind, then_ok,
      validateVisibleWhen_json, htake, hsplit, hlength, ih, acceptedQuestions, Bool.and_eq_true, and_assoc,
      happend]

theorem get_sectionVisibleWhen (s : Section) :
    Dict.get s.dict "visible_when" = (s.visibleWhen.map Condition.json).getD .none := by
  have hhead : ([("id", .str (String.ofList s.id)), ("title", .str (String.ofList s.title)),
      ("questions", .list (s.questions.map Question.json))] : Dict).lookup "visible_when" = none := rfl
  rw [Dict.get, Section.dict, List.lookup_append, hhead, Option.none_or, lookup_optionalKey]

/-- The second loop of `validate_template_schema`, after some questions. -/
theorem conditionsOfSections_json : ∀ (sections : List Section) (before : List Question),
    Json.conditionsOfSections validators
        (definitionsJson 0 (before ++ sections.flatMap (·.questions))) before.length
        (sections.map Section.json) = .ok () ↔
      acceptedSections validators before sections = true := by
  intro sections
  induction sections with
  | nil => exact fun before => iff_of_true rfl rfl
  | cons s rest ih =>
    intro before
    have hid : Json.itemText s.json "id" = .ok (String.ofList s.id) := rfl
    have hcondition : Json.getOf s.json "visible_when" =
        .ok ((s.visibleWhen.map Condition.json).getD .none) := by
      rw [Section.json, Json.getOf, get_sectionVisibleWhen]
    have hitems : Json.itemList s.json "questions" = .ok (s.questions.map Question.json) := rfl
    have htake : (before ++ (s.questions ++ rest.flatMap (·.questions))).take before.length = before :=
      List.take_left' rfl
    rw [List.map_cons, Json.conditionsOfSections, List.flatMap_cons, hid, Json.ok_bind, hcondition,
      Json.ok_bind, then_ok, validateVisibleWhen_json, htake, hitems, Json.ok_bind, acceptedSections,
      Bool.and_eq_true, Bool.and_eq_true, and_assoc, bind_eq_ok]
    refine and_congr_right fun _ => ?_
    -- the questions of the section are before the sections that follow
    rw [← ih (before ++ s.questions), List.append_assoc]
    constructor
    · rintro ⟨position, hquestions, hrest⟩
      obtain ⟨haccepted, rfl⟩ := (conditionsOfQuestions_json validators _ _ _).1 hquestions
      exact ⟨haccepted, hrest⟩
    · rintro ⟨haccepted, hrest⟩
      exact ⟨_, (conditionsOfQuestions_json validators _ _ _).2 ⟨haccepted, rfl⟩, hrest⟩

end Conditions

section Schema

theorem lookup_definitionsJson_isSome {id : QuestionId} (questions : List Question) (position : ℕ) :
    ((definitionsJson position questions).lookup (String.ofList id)).isSome = true ↔
      id ∈ questions.map (·.id) := by
  induction questions generalizing position with
  | nil => exact iff_of_false Bool.false_ne_true (List.not_mem_nil)
  | cons q rest ih =>
    rw [definitionsJson, List.lookup_cons, ofList_beq, List.map_cons, List.mem_cons]
    by_cases hid : id = q.id
    · rw [hid, beq_self_eq_true]
      exact iff_of_true rfl (.inl rfl)
    · rw [beq_false_of_ne hid, or_iff_right hid]
      exact ih (position + 1)

/-- The identifier of a question is valid, and that of no question before. -/
theorem questionHead_json {sectionId : String} {before : List Question} {q : Question}
    {head : String × Dict} :
    Json.questionHead sectionId (definitionsJson 0 before) q.json = .ok head ↔
      isIdentifier q.id = true ∧ q.id ∉ before.map (·.id) ∧ head = (String.ofList q.id, q.dict) := by
  have hmapping : ∀ message, Json.requireMapping q.json message = .ok q.dict := fun _ => rfl
  have hget : Dict.get q.dict "id" = .str (String.ofList q.id) := rfl
  unfold Json.questionHead
  rw [hmapping, Json.ok_bind, hget, validateIdentifier_json]
  by_cases hid : isIdentifier q.id = true
  · rw [if_pos hid, Json.ok_bind, refuse_ite_ok, lookup_definitionsJson_isSome, and_iff_right hid]
    exact and_congr_right fun _ => (Except.ok.injEq _ _).to_iff.trans eq_comm
  · rw [if_neg hid]
    exact iff_of_false (fun h => by cases h) fun h => hid h.1

theorem identifier_of_accepted {q : Question} (h : q.accepted = true) : isIdentifier q.id = true := by
  simp only [Question.accepted, Bool.and_eq_true] at h
  exact h.1.1.1.1

/-- The questions of a section, after those of the sections before. -/
theorem validateQuestions_json {sectionId : String} {known : Json.Definitions} :
    ∀ {questions before : List Question}, (before.map (·.id)).Nodup →
      (Json.validateQuestions sectionId (questions.map Question.json) (definitionsJson 0 before) =
          .ok known ↔
        (questions.all Question.accepted = true ∧ ((before ++ questions).map (·.id)).Nodup) ∧
          known = definitionsJson 0 (before ++ questions)) := by
  intro questions
  induction questions with
  | nil =>
    intro before hbefore
    rw [List.append_nil, and_iff_right ⟨rfl, hbefore⟩]
    exact (Except.ok.injEq _ _).to_iff.trans eq_comm
  | cons q rest ih =>
    intro before hbefore
    have hsplit : before ++ q :: rest = before ++ [q] ++ rest := by simp
    have hdefinitions : definitionsJson 0 before ++
        [(String.ofList q.id, (definitionsJson 0 before).length, q.dict)] =
          definitionsJson 0 (before ++ [q]) := by
      rw [definitionsJson_append, length_definitionsJson, Nat.zero_add]
      rfl
    rw [List.map_cons, Json.validateQuestions, bind_eq_ok, List.all_cons, Bool.and_eq_true, hsplit]
    constructor
    · rintro ⟨head, hhead, hrest⟩
      obtain ⟨hid, hnew, rfl⟩ := questionHead_json.1 hhead
      obtain ⟨hq, hrest⟩ := then_ok.1 hrest
      have hsnoc : ((before ++ [q]).map (·.id)).Nodup := by
        rw [List.map_append]
        exact nodup_append_singleton_iff.2 ⟨hnew, hbefore⟩
      rw [hdefinitions] at hrest
      obtain ⟨⟨hall, hnodup⟩, hknown⟩ := (ih hsnoc).1 hrest
      exact ⟨⟨⟨(validateQuestion_json hid _).1 hq, hall⟩, hnodup⟩, hknown⟩
    · rintro ⟨⟨⟨hq, hall⟩, hnodup⟩, hknown⟩
      have hsnoc : ((before ++ [q]).map (·.id)).Nodup := by
        rw [List.map_append] at hnodup
        exact (List.nodup_append.1 hnodup).1
      have hnew : q.id ∉ before.map (·.id) := by
        rw [List.map_append] at hsnoc
        exact (nodup_append_singleton_iff.1 hsnoc).1
      have hid := identifier_of_accepted hq
      refine ⟨_, questionHead_json.2 ⟨hid, hnew, rfl⟩,
        then_ok.2 ⟨(validateQuestion_json hid _).2 hq, ?_⟩⟩
      rw [hdefinitions]
      exact (ih hsnoc).2 ⟨⟨hall, hnodup⟩, hknown⟩

/-- A section, without its conditions. -/
def Section.accepted (s : Section) : Bool :=
  isIdentifier s.id && isNonEmptyText s.title && !s.questions.isEmpty && s.questions.all Question.accepted

/-- A section up to its questions. -/
theorem sectionHead_json {index : ℕ} {ids : List Text} {s : Section} {head : String × List Value} :
    Json.sectionHead index (ids.map String.ofList) s.json = .ok head ↔
      (isIdentifier s.id = true ∧ isNonEmptyText s.title = true ∧ s.questions.isEmpty = false) ∧
        s.id ∉ ids ∧ head = (String.ofList s.id, s.questions.map Question.json) := by
  have hmapping : ∀ message, Json.requireMapping s.json message = .ok s.dict := fun _ => rfl
  have hkeys : ∀ context, Json.validateAllowedKeys s.dict Json.sectionKeys context = .ok () := by
    intro context
    have hnone : ((s.dict.map Prod.fst).filter fun k => !Json.sectionKeys.contains k) = [] := by
      rw [Section.dict]
      cases s.visibleWhen <;> rfl
    rw [Json.validateAllowedKeys, hnone, if_pos rfl]
  have hid : Dict.get s.dict "id" = .str (String.ofList s.id) := rfl
  have htitle : Dict.get s.dict "title" = .str (String.ofList s.title) := rfl
  have hitems : Dict.get s.dict "questions" = .list (s.questions.map Question.json) := rfl
  have hdescription : ∀ message, Json.validateOptionalText s.dict "description" message = .ok () := by
    intro message
    have hlookup : s.dict.lookup "description" = none := by
      rw [Section.dict]
      cases s.visibleWhen <;> rfl
    rw [Json.validateOptionalText, hlookup]
  have hempty : (s.questions.map Question.json).isEmpty = s.questions.isEmpty := by
    cases s.questions <;> rfl
  unfold Json.sectionHead
  dsimp only
  rw [hmapping, Json.ok_bind, hkeys, Json.ok_bind, hid, validateIdentifier_json, htitle, hitems]
  by_cases hidentifier : isIdentifier s.id = true
  · rw [if_pos hidentifier, Json.ok_bind, refuse_ite_ok, contains_ofList,
      requireNonEmptyText_json]
    by_cases hnonEmpty : isNonEmptyText s.title = true
    · rw [if_pos hnonEmpty, Json.ok_bind, hdescription, Json.ok_bind, Json.requireList, Json.ok_bind,
        refuse_ite_ok, hempty, Bool.not_eq_true]
      constructor
      · rintro ⟨hnew, hne, hhead⟩
        exact ⟨⟨hidentifier, hnonEmpty, hne⟩, hnew, (Except.ok.inj hhead).symm⟩
      · rintro ⟨⟨-, -, hne⟩, hnew, rfl⟩
        exact ⟨hnew, hne, rfl⟩
    · rw [if_neg hnonEmpty]
      exact iff_of_false (fun h => by cases h.2) fun h => hnonEmpty h.1.2.1
  · rw [if_neg hidentifier]
    exact iff_of_false (fun h => by cases h) fun h => hidentifier h.1.1

/-- The first loop of `validate_template_schema`, after some sections and their questions. -/
theorem validateSections_json {known : Json.Definitions} :
    ∀ {sections : List Section} {index : ℕ} {ids : List Text} {before : List Question},
      ids.Nodup → (before.map (·.id)).Nodup →
      (Json.validateSections index (sections.map Section.json) (ids.map String.ofList)
          (definitionsJson 0 before) = .ok known ↔
        (sections.all Section.accepted = true ∧ (ids ++ sections.map (·.id)).Nodup ∧
          ((before ++ sections.flatMap (·.questions)).map (·.id)).Nodup) ∧
          known = definitionsJson 0 (before ++ sections.flatMap (·.questions))) := by
  intro sections
  induction sections with
  | nil =>
    intro index ids before hids hbefore
    rw [List.flatMap_nil, List.append_nil, List.map_nil, List.map_nil, List.append_nil,
      and_iff_right ⟨rfl, hids, hbefore⟩]
    exact (Except.ok.injEq _ _).to_iff.trans eq_comm
  | cons s rest ih =>
    intro index ids before hids hbefore
    have hsplit : ids ++ (s :: rest).map (·.id) = ids ++ [s.id] ++ rest.map (·.id) := by simp
    have hmap : ids.map String.ofList ++ [String.ofList s.id] = (ids ++ [s.id]).map String.ofList := by
      simp
    rw [List.map_cons, Json.validateSections, bind_eq_ok, List.all_cons, Bool.and_eq_true, hsplit,
      List.flatMap_cons, ← List.append_assoc]
    constructor
    · rintro ⟨head, hhead, h⟩
      obtain ⟨⟨hid, htitle, hne⟩, hnew, rfl⟩ := sectionHead_json.1 hhead
      obtain ⟨known', hquestions, hrest⟩ := bind_eq_ok.1 h
      obtain ⟨⟨haccepted, hnodup⟩, rfl⟩ := (validateQuestions_json hbefore).1 hquestions
      rw [hmap] at hrest
      have hsnoc := nodup_append_singleton_iff.2 ⟨hnew, hids⟩
      obtain ⟨⟨hall, hids', hquestions'⟩, hknown⟩ := (ih hsnoc hnodup).1 hrest
      have hs : s.accepted = true := by
        rw [Section.accepted, hid, htitle, hne, haccepted]
        rfl
      exact ⟨⟨⟨hs, hall⟩, hids', hquestions'⟩, hknown⟩
    · rintro ⟨⟨⟨hs, hall⟩, hids', hquestions'⟩, hknown⟩
      simp only [Section.accepted, Bool.and_eq_true, Bool.not_eq_true'] at hs
      obtain ⟨⟨⟨hid, htitle⟩, hne⟩, haccepted⟩ := hs
      have hsnoc := (List.nodup_append.1 hids').1
      have hnodup : ((before ++ s.questions).map (·.id)).Nodup := by
        rw [List.map_append] at hquestions'
        exact (List.nodup_append.1 hquestions').1
      refine ⟨_, sectionHead_json.2 ⟨⟨hid, htitle, hne⟩, (nodup_append_singleton_iff.1 hsnoc).1, rfl⟩,
        bind_eq_ok.2 ⟨_, (validateQuestions_json hbefore).2 ⟨⟨haccepted, hnodup⟩, rfl⟩, ?_⟩⟩
      rw [hmap]
      exact (ih hsnoc hnodup).2 ⟨⟨hall, hids', hquestions'⟩, hknown⟩

/-- The sections of a schema. -/
theorem schemaHead_json {schema : Schema} {sections : List Value} :
    Json.schemaHead schema.json = .ok sections ↔
      (isNonEmptyText schema.title = true ∧ schema.sections.isEmpty = false) ∧
        sections = schema.sections.map Section.json := by
  have hmapping : ∀ message, Json.requireMapping schema.json message =
      .ok [("title", .str (String.ofList schema.title)),
        ("sections", .list (schema.sections.map Section.json))] := fun _ => rfl
  have hkeys : ∀ context, Json.validateAllowedKeys [("title", .str (String.ofList schema.title)),
      ("sections", .list (schema.sections.map Section.json))] Json.rootKeys context = .ok () :=
    fun _ => rfl
  have htitle : Dict.get [("title", .str (String.ofList schema.title)),
      ("sections", .list (schema.sections.map Section.json))] "title" =
        .str (String.ofList schema.title) := rfl
  have hdescription : ∀ message, Json.validateOptionalText [("title", .str (String.ofList schema.title)),
      ("sections", .list (schema.sections.map Section.json))] "description" message = .ok () :=
    fun _ => rfl
  have hitems : Dict.get [("title", .str (String.ofList schema.title)),
      ("sections", .list (schema.sections.map Section.json))] "sections" =
        .list (schema.sections.map Section.json) := rfl
  have hempty : (schema.sections.map Section.json).isEmpty = schema.sections.isEmpty := by
    cases schema.sections <;> rfl
  unfold Json.schemaHead
  rw [hmapping, Json.ok_bind, hkeys, Json.ok_bind, htitle, requireNonEmptyText_json, hdescription, hitems]
  by_cases hnonEmpty : isNonEmptyText schema.title = true
  · rw [if_pos hnonEmpty, Json.ok_bind, Json.ok_bind, Json.requireList, Json.ok_bind, refuse_ite_ok,
      hempty, Bool.not_eq_true, and_iff_right hnonEmpty]
    exact and_congr_right fun _ => (Except.ok.injEq _ _).to_iff.trans eq_comm
  · rw [if_neg hnonEmpty]
    exact iff_of_false (fun h => by cases h) fun h => hnonEmpty h.1.1

variable (validators : Validators) (schema : Schema)

/-- **A schema of the rules is accepted when the validator of documents takes it.** -/
theorem validateTemplateSchema_json :
    Json.validateTemplateSchema validators schema.json = .ok () ↔ schema.accepted validators = true := by
  have haccepted : schema.accepted validators = true ↔
      (isNonEmptyText schema.title = true ∧ schema.sections.isEmpty = false) ∧
        (schema.sections.all Section.accepted = true ∧ (schema.sections.map (·.id)).Nodup ∧
          (schema.questions.map (·.id)).Nodup) ∧
        acceptedSections validators [] schema.sections = true := by
    have hall : schema.sections.all (fun s => isIdentifier s.id && isNonEmptyText s.title &&
        !s.questions.isEmpty && s.questions.all Question.accepted) =
          schema.sections.all Section.accepted := rfl
    rw [Schema.accepted, hall]
    simp only [Bool.and_eq_true, Bool.not_eq_true', decide_eq_true_eq, and_assoc]
  have hsections : ∀ known, _ := fun known =>
    @validateSections_json known schema.sections 1 [] [] List.nodup_nil List.nodup_nil
  have hconditions := conditionsOfSections_json validators schema.sections []
  rw [haccepted, Json.validateTemplateSchema, bind_eq_ok]
  constructor
  · rintro ⟨sections, hhead, h⟩
    obtain ⟨htitle, rfl⟩ := schemaHead_json.1 hhead
    obtain ⟨known, hknown, hcondition⟩ := bind_eq_ok.1 h
    obtain ⟨hchecked, rfl⟩ := (hsections known).1 hknown
    exact ⟨htitle, hchecked, hconditions.1 hcondition⟩
  · rintro ⟨htitle, hchecked, hcondition⟩
    exact ⟨_, schemaHead_json.2 ⟨htitle, rfl⟩,
      bind_eq_ok.2 ⟨_, (hsections _).2 ⟨hchecked, rfl⟩, hconditions.2 hcondition⟩⟩

end Schema

end SheepContabil.SC06
