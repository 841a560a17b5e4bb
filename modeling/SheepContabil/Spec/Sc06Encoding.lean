import SheepContabil.Spec.Sc06Schema

/-!
# SC-06: the schema of a briefing, written as JSON

A `Schema` is a document of the right shape. What the code stores and reads is the document.

* `Schema.json`: the document of a schema; a key without a value is left out.
* `rawAnswers`: what the rules see of the answers of a request.
* `outcomeJson`: what `sanitize_answers` returns or raises, as JSON.
-/

namespace SheepContabil.SC06

open Py

section Writing

def Answer.json : Answer → Value
  | .bool b => .bool b
  | .text t => .str (String.ofList t)

def QuestionType.name : QuestionType → String
  | .text => "text"
  | .textarea => "textarea"
  | .choice => "choice"
  | .boolean => "boolean"
  | .date => "date"
  | .email => "email"

/-- A comparison. -/
def leafJson (operator : String) (field : QuestionId) (value : Value) : Value :=
  .dict [("operator", .str operator), ("field", .str (String.ofList field)), ("value", value)]

mutual

def Condition.json : Condition → Value
  | .equals field value => leafJson "equals" field value.json
  | .notEquals field value => leafJson "not_equals" field value.json
  | .isIn field values => leafJson "in" field (.list (values.map Answer.json))
  | .all conditions => .dict [("operator", .str "all"), ("conditions", .list (conditionsJson conditions))]
  | .any conditions => .dict [("operator", .str "any"), ("conditions", .list (conditionsJson conditions))]

def conditionsJson : List Condition → List Value
  | [] => []
  | c :: rest => c.json :: conditionsJson rest

end

def ChoiceOption.json (o : ChoiceOption) : Value :=
  .dict [("value", .str (String.ofList o.value)), ("label", .str (String.ofList o.label))]

/-- A key that is written when there is something to write. -/
def optionalKey (key : String) : Option Value → Dict
  | some v => [(key, v)]
  | none => []

/-- The `options` of a question that has some. -/
def Question.optionsJson (q : Question) : Option Value :=
  if q.options = [] then none else some (.list (q.options.map ChoiceOption.json))

def lengthJson (length : Option ℕ) : Option Value := length.map fun n : ℕ => .int n

def Question.lengthsJson (q : Question) : Dict :=
  optionalKey "min_length" (lengthJson q.minLength) ++ optionalKey "max_length" (lengthJson q.maxLength)

def Question.dict (q : Question) : Dict :=
  [("id", .str (String.ofList q.id)), ("label", .str (String.ofList q.label)),
    ("type", .str q.type.name), ("required", .bool q.required),
    ("validation", .dict q.lengthsJson)] ++
  optionalKey "options" q.optionsJson ++ optionalKey "visible_when" (q.visibleWhen.map Condition.json)

def Question.json (q : Question) : Value := .dict q.dict

def Section.dict (s : Section) : Dict :=
  [("id", .str (String.ofList s.id)), ("title", .str (String.ofList s.title)),
    ("questions", .list (s.questions.map Question.json))] ++
  optionalKey "visible_when" (s.visibleWhen.map Condition.json)

def Section.json (s : Section) : Value := .dict s.dict

def Schema.json (schema : Schema) : Value :=
  .dict [("title", .str (String.ofList schema.title)),
    ("sections", .list (schema.sections.map Section.json))]

/-- The answers of `sanitized_answers`. -/
def storedJson (stored : List (QuestionId × Answer)) : Dict :=
  stored.map fun e => (String.ofList e.1, e.2.json)

/-- What the rules see of a raw answer. -/
def rawOf : Value → RawAnswer
  | .none => .null
  | .bool b => .bool b
  | .int n => .int n
  | .str s => .text s.toList
  | .list [] => .emptyList
  | _ => .other

/-- What the rules see of the answers of a request. -/
def rawAnswers (answers : Dict) : QuestionId → Option RawAnswer :=
  fun id => (answers.lookup (String.ofList id)).map rawOf

/-- What the document makes of an answer, or of an error. -/
def answered : Except String Answer → Json.Check Value
  | .ok a => .ok a.json
  | .error message => Json.refuse message

/-- The errors of the walk, one for a question. -/
abbrev errorsJson (errors : List (QuestionId × String)) : Json.Errors :=
  errors.map fun e => (String.ofList e.1, [e.2])

/-- The field errors of a `ValidationError`. -/
def fieldErrorsJson (errors : FieldErrors) : Json.Errors := errors.map fun e => (String.ofList e.1, e.2)

/-- A row of `format_answers`. -/
def FormattedAnswer.json (row : FormattedAnswer) : Value :=
  .dict [("section_id", .str (String.ofList row.sectionId)),
    ("section_title", .str (String.ofList row.sectionTitle)),
    ("question_id", .str (String.ofList row.questionId)),
    ("question_label", .str (String.ofList row.questionLabel)),
    ("question_type", .str row.questionType.name),
    ("value", row.value.json), ("display_value", .str (String.ofList row.displayValue))]

/-- What `sanitize_answers` returns or raises, as JSON. -/
def outcomeJson : Except FieldErrors (List (QuestionId × Answer)) → Except Json.Errors Dict
  | .ok stored => .ok (storedJson stored)
  | .error errors => .error (fieldErrorsJson errors)

end Writing

end SheepContabil.SC06
