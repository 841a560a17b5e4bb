import SheepContabil.Spec.Sc06Dates

/-!
# SC-06: the answers of a briefing

What the server does with the answers of an accepted schema.

* `getActiveSections`: the sections and questions that the form leaves active.
* `sanitizeAnswers`: the answers to store, or the errors by field.
* `formatAnswers`: the consolidated result.
* `groupedAnswers`: the groups of `build_briefing_pdf`.
-/

namespace SheepContabil.SC06

section Active

variable (validators : Validators) (answers : QuestionId → Option RawAnswer)

/-- The entry of a question in `effective_answers`, if its answer is valid. -/
def effectiveAnswer (q : Question) : Option Answer :=
  (answers q.id).bind fun raw => (coerceAnswer validators q raw).toOption

/-- `effective_answers` and the active questions of the section. -/
structure ActiveQuestions where
  effective : List (QuestionId × Answer) := []
  questions : List Question := []

def ActiveQuestions.question (w : ActiveQuestions) (q : Question) : ActiveQuestions :=
  if q.visibleWhen.all (evaluateCondition w.effective) then
    { effective := match effectiveAnswer validators answers q with
        | some value => w.effective ++ [(q.id, value)]
        | none => w.effective
      questions := w.questions ++ [q] }
  else w

/-- `effective_answers` and the active sections. -/
structure ActiveSections where
  effective : List (QuestionId × Answer) := []
  sections : List Section := []

def ActiveSections.section_ (w : ActiveSections) (s : Section) : ActiveSections :=
  if s.visibleWhen.all (evaluateCondition w.effective) then
    let active := s.questions.foldl (ActiveQuestions.question validators answers)
      { effective := w.effective }
    { effective := active.effective
      sections := w.sections ++ [{ s with questions := active.questions }] }
  else w

/-- `get_active_sections`. -/
def getActiveSections (schema : Schema) : List Section :=
  (schema.sections.foldl (ActiveSections.section_ validators answers) {}).sections

/-- `get_active_questions`. -/
def getActiveQuestions (schema : Schema) : List Question :=
  (getActiveSections validators answers schema).flatMap (·.questions)

end Active

/-- What the matching of names takes from Unicode: `str.lower`, and the characters of `\w` and `\d`. -/
structure Unicode where
  lower : Text → Text
  isWord : Char → Bool
  isDigit : Char → Bool

section Partners

variable (u : Unicode)

/-- The separators of `re.split(r"[\n,;]+", …)`. -/
def isSeparator (c : Char) : Bool := c == '\n' || c == ',' || c == ';'

/-- The declared items, stripped, without the blank ones. -/
def declaredItems (partners : Text) : List Text :=
  ((partners.splitOnP isSeparator).map strip).filter (· != [])

/-- `\s*-\s*\d{2,3}.*$` matches here. -/
def startsDocument (t : Text) : Bool :=
  match t.dropWhile Py.isSpace with
  | '-' :: rest => match rest.dropWhile Py.isSpace with
    | a :: b :: _ => u.isDigit a && u.isDigit b
    | _ => false
  | _ => false

/-- `re.sub(r"\s*-\s*\d{2,3}.*$", "", …)`. -/
def dropDocument : Text → Text
  | [] => []
  | c :: rest => if startsDocument u (c :: rest) then [] else c :: dropDocument rest

/-- `clean_item`. -/
def cleanItem (item : Text) : Text := strip (dropDocument u item)

/-- `re.findall(r"\w+", …)`. -/
def words (t : Text) : List Text := (t.splitOnP fun c => !u.isWord c).filter (· != [])

/-- `m_words and m_words.issubset(i_words)`. -/
def hasAllWords (name item : Text) : Bool :=
  words u name != [] && (words u name).all fun word => (words u item).contains word

/-- Python's `in` between two texts. -/
def occursIn (part whole : Text) : Bool := decide (part <:+: whole)

/-- The tests of the loop of `_is_partner_declared`. -/
def matchesItem (name item : Text) : Bool :=
  name == cleanItem u item || occursIn name (cleanItem u item) ||
    occursIn (cleanItem u item) name || hasAllWords u name (cleanItem u item)

/-- `_is_partner_declared`. -/
def isPartnerDeclared (married partners : Text) : Bool :=
  if married = [] ∨ partners = [] then true
  else
    let marriedNorm := u.lower (strip married)
    let partnersNorm := u.lower (strip partners)
    occursIn marriedNorm partnersNorm || (declaredItems partnersNorm).any (matchesItem u marriedNorm)

end Partners

section Sanitize

variable (validators : Validators) (u : Unicode)

abbrev FieldErrors := List (QuestionId × List String)

/-- `errors.setdefault(field, []).append(message)`. -/
def addError (field : QuestionId) (message : String) : FieldErrors → FieldErrors
  | [] => [(field, [message])]
  | (f, messages) :: rest =>
    if f = field then (f, messages ++ [message]) :: rest else (f, messages) :: addError field message rest

def partnerMessage (married : Text) : String :=
  "O sócio casado informado ('" ++ String.ofList married ++
    "') deve coincidir com um dos nomes declarados no quadro societário."

/-- The married partner that no declared item matches. -/
def undeclaredPartner (sanitized : List (QuestionId × Answer)) : Option Text :=
  if sanitized.lookup "has_married_partner".toList = some (.bool true) then
    match sanitized.lookup "married_partner_name".toList, sanitized.lookup "partner_names".toList with
    | some (.text married), some (.text partners) =>
      if strip married ≠ [] ∧ strip partners ≠ [] ∧ isPartnerDeclared u married partners = false then
        some married
      else none
    | _, _ => none
  else none

/-- The errors of the walk, with that of the married partner. -/
def Sanitation.allErrors (w : Sanitation) (requireComplete : Bool) : FieldErrors :=
  let errors := w.errors.map fun e => (e.1, [e.2])
  match if requireComplete then undeclaredPartner u w.sanitized else none with
  | some married => addError "married_partner_name".toList (partnerMessage married) errors
  | none => errors

/-- `sanitize_answers`. -/
def sanitizeAnswers (answers : QuestionId → Option RawAnswer) (requireComplete : Bool)
    (schema : Schema) : Except FieldErrors (List (QuestionId × Answer)) :=
  let w := sanitize validators answers requireComplete schema
  let errors := w.allErrors u requireComplete
  if errors = [] then .ok w.sanitized else .error errors

end Sanitize

/-- A stored answer, read back. -/
def Answer.raw : Answer → RawAnswer
  | .bool b => .bool b
  | .text t => .text t

/-- The stored answers, given back to the server. -/
def storedAnswers (stored : List (QuestionId × Answer)) : QuestionId → Option RawAnswer :=
  fun i => (stored.lookup i).map Answer.raw

section Format

variable (validators : Validators)

/-- `str` of a stored answer. -/
def Answer.str : Answer → Text
  | .bool true => "True".toList
  | .bool false => "False".toList
  | .text t => t

/-- `format_answer`. -/
def formatAnswer (q : Question) (value : Answer) : Text :=
  match q.type, value with
  | .boolean, .bool b => if b then "Sim".toList else "Não".toList
  | .choice, value =>
    match q.options.find? fun o => Answer.text o.value == value with
    | some o => o.label
    | none => value.str
  | .date, .text t => match fromIsoFormat t with
    | some day => strftime day
    | none => t
  | _, value => value.str

structure FormattedAnswer where
  sectionId : Text
  sectionTitle : Text
  questionId : QuestionId
  questionLabel : Text
  questionType : QuestionType
  value : Answer
  displayValue : Text
  deriving DecidableEq, Repr

/-- The row of an active question, if it has an answer. -/
def formattedAnswer (stored : List (QuestionId × Answer)) (s : Section) (q : Question) :
    Option FormattedAnswer :=
  (stored.lookup q.id).map fun value =>
    { sectionId := s.id
      sectionTitle := s.title
      questionId := q.id
      questionLabel := q.label
      questionType := q.type
      value := value
      displayValue := formatAnswer q value }

/-- `format_answers`. -/
def formatAnswers (stored : List (QuestionId × Answer)) (schema : Schema) : List FormattedAnswer :=
  (getActiveSections validators (storedAnswers stored) schema).flatMap fun s =>
    s.questions.filterMap (formattedAnswer stored s)

/-- `grouped[title].append(answer)`, in a dictionary that keeps its order. -/
def addToGroup (groups : List (Text × List FormattedAnswer)) (answer : FormattedAnswer) :
    List (Text × List FormattedAnswer) :=
  match groups with
  | [] => [(answer.sectionTitle, [answer])]
  | (title, members) :: rest =>
    if title = answer.sectionTitle then (title, members ++ [answer]) :: rest
    else (title, members) :: addToGroup rest answer

/-- `grouped` of `build_briefing_pdf`: the headings of the document and the answers under each. -/
def groupedAnswers (formatted : List FormattedAnswer) : List (Text × List FormattedAnswer) :=
  formatted.foldl addToGroup []

end Format

end SheepContabil.SC06
