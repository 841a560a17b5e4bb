import Mathlib.Tactic.Common
import SheepContabil.Py.Str

/-!
# SC-06: the rules of a briefing

The declarative schema of `sc06/rules.py`, its validation, and the two interpreters
of its visibility conditions: the server's, over normalised answers, and that of
`app.js`, over the raw values of the page. A text is the list of its characters.

* `Schema.accepted`: `validate_template_schema`, on a schema of the right shape.
* `sanitize`, `activeQuestions`: the walk of `sanitize_answers`.
* `visibility`, `visibleQuestions`: the walk of `visibility` in the browser.
-/

namespace SheepContabil.SC06

abbrev Text := List Char
abbrev QuestionId := Text

/-- `str.strip`. -/
def strip (t : Text) : Text := Py.stripOf Py.isSpace t

/-- `str.lower`, on the letters of the boolean words; no other character becomes one of them. -/
def lower (t : Text) : Text :=
  t.map fun c => if c.isUpper then c.toLower else if c = 'Ã' then 'ã' else c

/-- A text that `_require_non_empty_text` takes. -/
def isNonEmptyText (t : Text) : Bool := strip t != []

/-- `_IDENTIFIER_PATTERN`. -/
def isIdentifier : Text → Bool
  | [] => false
  | c :: rest => c.isLower && decide (rest.length ≤ 79) &&
      rest.all fun c => c.isLower || c.isDigit || c == '_'

inductive QuestionType where
  | text | textarea | choice | boolean | date | email
  deriving DecidableEq, Repr

/-- A normalised answer, or a value to compare one with. -/
inductive Answer where
  | bool (b : Bool)
  | text (t : Text)
  deriving DecidableEq, Repr

/-- A raw answer of a request. -/
inductive RawAnswer where
  | null
  | bool (b : Bool)
  | int (n : ℤ)
  | text (t : Text)
  | emptyList
  | other
  deriving DecidableEq, Repr

inductive Condition where
  | equals (field : QuestionId) (value : Answer)
  | notEquals (field : QuestionId) (value : Answer)
  | isIn (field : QuestionId) (values : List Answer)
  | all (conditions : List Condition)
  | any (conditions : List Condition)

structure ChoiceOption where
  value : Text
  label : Text
  deriving DecidableEq, Repr

structure Question where
  id : QuestionId
  label : Text
  type : QuestionType
  required : Bool := false
  options : List ChoiceOption := []
  minLength : Option ℕ := none
  maxLength : Option ℕ := none
  visibleWhen : Option Condition := none

structure Section where
  id : Text
  title : Text
  visibleWhen : Option Condition := none
  questions : List Question

structure Schema where
  title : Text
  sections : List Section

/-- `date.fromisoformat` and `validate_email`: which texts they take. -/
structure Validators where
  isDate : Text → Bool
  isEmail : Text → Bool

def booleanTrue : List Text :=
  ["1".toList, "true".toList, "on".toList, "yes".toList, "sim".toList]

def booleanFalse : List Text :=
  ["0".toList, "false".toList, "off".toList, "no".toList, "nao".toList, "não".toList]

section Server

variable (validators : Validators)

/-- What `_coerce_answer` says of the stripped value of a question that is not boolean. -/
def Question.textError? (q : Question) (value : Text) : Option String :=
  if q.type = .choice ∧ value ∉ q.options.map (·.value) then
    some "Selecione uma das opções disponíveis."
  else if q.type = .date ∧ validators.isDate value = false then some "Informe uma data válida."
  else if q.type = .email ∧ validators.isEmail value = false then some "Informe um e-mail válido."
  else if q.minLength.any fun minimum => decide (value.length < minimum) then
    some s!"Informe ao menos {q.minLength.getD 0} caracteres."
  else if q.maxLength.any fun maximum => decide (maximum < value.length) then
    some s!"Informe no máximo {q.maxLength.getD 0} caracteres."
  else none

/-- `_coerce_answer`. -/
def coerceAnswer (q : Question) (raw : RawAnswer) : Except String Answer :=
  if q.type = .boolean then
    match raw with
    | .bool b => .ok (.bool b)
    | .int n =>
      if n = 0 then .ok (.bool false) else if n = 1 then .ok (.bool true)
      else .error "Informe Sim ou Não."
    | .text t =>
      if lower (strip t) ∈ booleanTrue then .ok (.bool true)
      else if lower (strip t) ∈ booleanFalse then .ok (.bool false)
      else .error "Informe Sim ou Não."
    | _ => .error "Informe Sim ou Não."
  else
    match raw with
    | .text t =>
      match q.textError? validators (strip t) with
      | some message => .error message
      | none => .ok (.text (strip t))
    | _ => .error "Informe um valor textual válido."

/-- `_validate_condition_value`. -/
def Question.comparesWith (q : Question) : Answer → Bool
  | .bool _ => q.type == .boolean
  | .text t => q.type != .boolean &&
      (coerceAnswer validators q (.text t)).toOption == some (.text t)

/-- The question a condition refers to: it must come before. -/
def comparable (before : List Question) (field : QuestionId) (value : Answer) : Bool :=
  (before.find? fun q => q.id == field).any fun q => q.comparesWith validators value

mutual

/-- `_validate_condition`. -/
def Condition.accepted (before : List Question) (depth : ℕ) : Condition → Bool
  | .equals field value | .notEquals field value =>
    decide (depth < 10) && comparable validators before field value
  | .isIn field values =>
    decide (depth < 10) && !values.isEmpty && values.all (comparable validators before field)
  | .all conditions | .any conditions =>
    decide (depth < 10) && !conditions.isEmpty && acceptedAll before (depth + 1) conditions

def acceptedAll (before : List Question) (depth : ℕ) : List Condition → Bool
  | [] => true
  | c :: rest => c.accepted before depth && acceptedAll before depth rest

end

/-- A `visible_when`, if any, is valid after these questions. -/
def acceptedCondition (before : List Question) (condition : Option Condition) : Bool :=
  condition.all (Condition.accepted validators before 0)

/-- `_validate_question`. -/
def Question.accepted (q : Question) : Bool :=
  isIdentifier q.id && isNonEmptyText q.label &&
    (if q.type = .choice then
      !q.options.isEmpty && q.options.all (fun o =>
        strip o.value == o.value && isNonEmptyText o.value && isNonEmptyText o.label) &&
      decide (q.options.map (·.value)).Nodup
    else q.options.isEmpty) &&
    (decide (q.type = .text ∨ q.type = .textarea ∨ q.type = .email) ||
      q.minLength.isNone && q.maxLength.isNone) &&
    (q.minLength.all fun minimum => q.maxLength.all fun maximum => decide (minimum ≤ maximum))

/-- The second loop of `validate_template_schema`, within a section. -/
def acceptedQuestions (before : List Question) : List Question → Bool
  | [] => true
  | q :: rest =>
    acceptedCondition validators before q.visibleWhen && acceptedQuestions (before ++ [q]) rest

/-- The second loop of `validate_template_schema`. -/
def acceptedSections (before : List Question) : List Section → Bool
  | [] => true
  | s :: rest =>
    acceptedCondition validators before s.visibleWhen &&
      acceptedQuestions validators before s.questions &&
      acceptedSections (before ++ s.questions) rest

def Schema.questions (schema : Schema) : List Question := schema.sections.flatMap (·.questions)

/-- `validate_template_schema`. -/
def Schema.accepted (schema : Schema) : Bool :=
  isNonEmptyText schema.title && !schema.sections.isEmpty &&
    schema.sections.all (fun s =>
      isIdentifier s.id && isNonEmptyText s.title && !s.questions.isEmpty &&
        s.questions.all Question.accepted) &&
    decide (schema.sections.map (·.id)).Nodup && decide (schema.questions.map (·.id)).Nodup &&
    acceptedSections validators [] schema.sections

mutual

/-- `evaluate_condition`. -/
def evaluateCondition (answers : List (QuestionId × Answer)) : Condition → Bool
  | .equals field value => answers.lookup field == some value
  | .notEquals field value => answers.lookup field != some value
  | .isIn field values => values.any fun value => answers.lookup field == some value
  | .all conditions => (evaluateConditions answers conditions).all id
  | .any conditions => (evaluateConditions answers conditions).any id

def evaluateConditions (answers : List (QuestionId × Answer)) : List Condition → List Bool
  | [] => []
  | c :: rest => evaluateCondition answers c :: evaluateConditions answers rest

end

/-- `_is_empty`. -/
def RawAnswer.isEmpty : RawAnswer → Bool
  | null | text [] | emptyList => true
  | _ => false

/-- The walk of `sanitize_answers`, with the questions that it treats as active. -/
structure Sanitation where
  sanitized : List (QuestionId × Answer) := []
  errors : List (QuestionId × String) := []
  active : List QuestionId := []

variable (answers : QuestionId → Option RawAnswer) (requireComplete : Bool)

/-- What `sanitize_answers` does with an active question. -/
def Sanitation.answer (w : Sanitation) (q : Question) : Sanitation :=
  let w := { w with active := w.active ++ [q.id] }
  match answers q.id with
  | some raw =>
    if raw.isEmpty then missing w
    else match coerceAnswer validators q raw with
      | .ok value => { w with sanitized := w.sanitized ++ [(q.id, value)] }
      | .error message => { w with errors := w.errors ++ [(q.id, message)] }
  | none => missing w
where
  missing (w : Sanitation) : Sanitation :=
    if requireComplete && q.required then
      { w with errors := w.errors ++ [(q.id, "Este campo é obrigatório.")] }
    else w

def Sanitation.question (w : Sanitation) (q : Question) : Sanitation :=
  if q.visibleWhen.all (evaluateCondition w.sanitized) then
    w.answer validators answers requireComplete q
  else w

def Sanitation.section_ (w : Sanitation) (s : Section) : Sanitation :=
  if s.visibleWhen.all (evaluateCondition w.sanitized) then
    s.questions.foldl (Sanitation.question validators answers requireComplete) w
  else w

/-- The loop of `sanitize_answers`, before the check of the married partner. -/
def sanitize (schema : Schema) : Sanitation :=
  schema.sections.foldl (Sanitation.section_ validators answers requireComplete) {}

/-- The questions `sanitize_answers` treats as active. -/
def activeQuestions (schema : Schema) : List QuestionId :=
  (sanitize validators answers requireComplete schema).active

end Server

section Browser

mutual

/-- `evaluate` of `app.js`. -/
def evaluate (answers : List (QuestionId × Answer)) : Condition → Bool
  | .all conditions => evaluateEvery answers conditions
  | .any conditions => evaluateSome answers conditions
  | .equals field value => answers.lookup field == some value
  | .notEquals field value => answers.lookup field != some value
  | .isIn field values => match answers.lookup field with
    | some actual => values.contains actual
    | none => false

def evaluateEvery (answers : List (QuestionId × Answer)) : List Condition → Bool
  | [] => true
  | c :: rest => evaluate answers c && evaluateEvery answers rest

def evaluateSome (answers : List (QuestionId × Answer)) : List Condition → Bool
  | [] => false
  | c :: rest => evaluate answers c || evaluateSome answers rest

end

/-- The values of the controls of the page. -/
abbrev Controls := QuestionId → Text

/-- `syncFromDom`: the entry of a question in `answers`, or `null`. -/
def syncFromDom (controls : Controls) (q : Question) : Option Answer :=
  if controls q.id = [] then none
  else if q.type = .boolean then some (.bool (controls q.id == "true".toList))
  else some (.text (controls q.id))

/-- `isEmpty` of `app.js`. -/
def isEmptyAnswer : Option Answer → Bool
  | none | some (.text []) => true
  | _ => false

/-- The walk of `visibility`. -/
structure Visibility where
  effective : List (QuestionId × Answer) := []
  visible : List QuestionId := []

variable (controls : Controls)

def Visibility.question (sectionVisible : Bool) (w : Visibility) (q : Question) : Visibility :=
  if sectionVisible && q.visibleWhen.all (evaluate w.effective) then
    { visible := w.visible ++ [q.id]
      effective := match syncFromDom controls q with
        | some value =>
          if isEmptyAnswer (some value) then w.effective else w.effective ++ [(q.id, value)]
        | none => w.effective }
  else w

def Visibility.section_ (w : Visibility) (s : Section) : Visibility :=
  s.questions.foldl (Visibility.question controls (s.visibleWhen.all (evaluate w.effective))) w

/-- `visibility` of `app.js`. -/
def visibility (schema : Schema) : Visibility :=
  schema.sections.foldl (Visibility.section_ controls) {}

/-- The questions `app.js` leaves visible. -/
def visibleQuestions (schema : Schema) : List QuestionId := (visibility controls schema).visible

/-- The same raw values, given to the server. -/
def Controls.raw (controls : Controls) : QuestionId → Option RawAnswer :=
  fun q => some (.text (controls q))

end Browser

end SheepContabil.SC06
