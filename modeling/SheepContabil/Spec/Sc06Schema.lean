import SheepContabil.Py.Value
import SheepContabil.Spec.Sc06Answers
import SheepContabil.Spec.Sc06Dates

/-!
# SC-06: the schema of a briefing, as JSON

`validate_template_schema` and the interpreters of `sc06/rules.py` on any JSON value. A membership
test in a set hashes its value, and a list or a dictionary has no hash; a missing key, a value that
cannot be iterated and an attribute that does not exist raise as well.

* `validateTemplateSchema`: the validator.
* `evaluateCondition`, `getActiveSections`, `sanitizeAnswers`, `formatAnswers`: the interpreters.
* `Backward`: every condition of the schema refers to earlier questions.
* `ReachesUnhashable`: the validator gets, past valid parts, to a type or an operator without a hash.
-/

namespace SheepContabil.SC06.Json

open Py

/-- What a function raises. -/
inductive Raise where
  | validation (message : String)
  | typeError
  | keyError
  | attributeError
  deriving DecidableEq, Repr

abbrev Check := Except Raise

def refuse {α : Type} (message : String) : Check α := .error (.validation message)

/-- A value that cannot be hashed. -/
def unhashable : Value → Bool
  | .list _ | .dict _ => true
  | _ => false

/-- `value in {…}`, a set of texts. -/
def isIn (v : Value) (allowed : List String) : Check Bool :=
  match v with
  | .str s => .ok (allowed.contains s)
  | v => if unhashable v then .error .typeError else .ok false

section Checks

/-- `_require_mapping`; the keys of a JSON object are texts. -/
def requireMapping (v : Value) (message : String) : Check Dict :=
  match v with
  | .dict d => .ok d
  | _ => refuse message

/-- `_require_list`. -/
def requireList (v : Value) (message : String) : Check (List Value) :=
  match v with
  | .list xs => .ok xs
  | _ => refuse message

/-- `_require_non_empty_text`. -/
def requireNonEmptyText (v : Value) (message : String) : Check String :=
  match v with
  | .str s => if Py.isBlank s then refuse message else .ok (Py.strip s)
  | _ => refuse message

/-- `_validate_optional_text`. -/
def validateOptionalText (d : Dict) (key message : String) : Check Unit :=
  match d.lookup key with
  | none | some (.str _) => .ok ()
  | some _ => refuse message

/-- `_validate_allowed_keys`. -/
def validateAllowedKeys (d : Dict) (allowed : List String) (context : String) : Check Unit :=
  let unsupported := (d.map Prod.fst).filter fun k => !allowed.contains k
  if unsupported = [] then .ok ()
  else
    refuse (context ++ " possui campo(s) não permitido(s): " ++
      ", ".intercalate (unsupported.mergeSort fun a b => decide (a ≤ b)) ++ ".")

/-- `_validate_identifier`. -/
def validateIdentifier (v : Value) (message : String) : Check String := do
  let identifier ← requireNonEmptyText v message
  if v.str? = some identifier ∧ isIdentifier identifier.toList = true then pure identifier
  else refuse message

/-- `_optional_non_negative_int`. -/
def optionalNonNegativeInt (v : Value) (questionId : String) : Check (Option ℕ) :=
  match v with
  | .none => .ok none
  | .int n =>
    if n < 0 then
      refuse ("A validação de tamanho da pergunta \"" ++ questionId ++ "\" deve ser um inteiro positivo.")
    else .ok (some n.toNat)
  | _ =>
    refuse ("A validação de tamanho da pergunta \"" ++ questionId ++ "\" deve ser um inteiro positivo.")

end Checks

def questionTypes : List String := ["text", "textarea", "choice", "boolean", "date", "email"]
def leafOperators : List String := ["equals", "not_equals", "in"]
def compositeOperators : List String := ["all", "any"]
def rootKeys : List String := ["title", "description", "sections"]
def sectionKeys : List String := ["id", "title", "description", "visible_when", "questions"]
def questionKeys : List String :=
  ["id", "label", "type", "required", "help_text", "placeholder", "options", "visible_when",
    "validation"]
def lengthKeys : List String := ["min_length", "max_length"]
def lengthTypes : List String := ["text", "textarea", "email"]

section Questions

/-- One option of a choice; its value is new. -/
def validateOption (questionId : String) (values : List String) (raw : Value) : Check String := do
  let option ← requireMapping raw ("As opções da pergunta \"" ++ questionId ++ "\" devem ser objetos JSON.")
  validateAllowedKeys option ["value", "label"] ("Uma opção da pergunta \"" ++ questionId ++ "\"")
  let value ← requireNonEmptyText (Dict.get option "value")
    ("Uma opção da pergunta \"" ++ questionId ++ "\" possui valor inválido.")
  if (Dict.get option "value").str? = some value then
    let _ ← requireNonEmptyText (Dict.get option "label")
      ("Uma opção da pergunta \"" ++ questionId ++ "\" deve informar um rótulo.")
    if values.contains value then
      refuse ("A opção \"" ++ value ++ "\" está duplicada na pergunta \"" ++ questionId ++ "\".")
    else pure value
  else refuse ("Uma opção da pergunta \"" ++ questionId ++ "\" deve usar valor sem espaços externos.")

def validateOptions (questionId : String) : List Value → List String → Check Unit
  | [], _ => .ok ()
  | raw :: rest, values => do
    let value ← validateOption questionId values raw
    validateOptions questionId rest (values ++ [value])

/-- The options of a question. -/
def validateChoice (question : Dict) (questionId : String) : Check Unit :=
  if (Dict.get question "type").str? = some "choice" then do
    let options ← requireList (Dict.get question "options")
      ("A pergunta \"" ++ questionId ++ "\" deve informar opções.")
    if options.isEmpty then
      refuse ("A pergunta \"" ++ questionId ++ "\" deve informar ao menos uma opção.")
    else validateOptions questionId options []
  else if (question.lookup "options").isSome then
    refuse ("A pergunta \"" ++ questionId ++ "\" só pode ter opções se for de escolha.")
  else .ok ()

/-- The `validation` of a question. -/
def validateLengths (question : Dict) (questionId : String) : Check Unit :=
  match Dict.get question "validation" with
  | .none => .ok ()
  | validation => do
    let config ← requireMapping validation
      ("A validação da pergunta \"" ++ questionId ++ "\" deve ser um objeto JSON.")
    if (config.map Prod.fst).any fun k => !lengthKeys.contains k then
      refuse ("A pergunta \"" ++ questionId ++ "\" possui validação não permitida.")
    else if (match (Dict.get question "type").str? with
        | some t => !lengthTypes.contains t
        | none => true) && !config.isEmpty then
      refuse ("O tipo da pergunta \"" ++ questionId ++ "\" não aceita validação de tamanho.")
    else
      let minimum ← optionalNonNegativeInt (Dict.get config "min_length") questionId
      let maximum ← optionalNonNegativeInt (Dict.get config "max_length") questionId
      match minimum, maximum with
      | some minimum, some maximum =>
        if maximum < minimum then
          refuse ("O tamanho mínimo da pergunta \"" ++ questionId ++ "\" não pode exceder o máximo.")
        else pure ()
      | _, _ => pure ()

/-- `_validate_question`, up to the type. -/
def validateLabel (question : Dict) (questionId : String) : Check Unit := do
  validateAllowedKeys question questionKeys ("A pergunta \"" ++ questionId ++ "\"")
  let _ ← requireNonEmptyText (Dict.get question "label")
    ("A pergunta \"" ++ questionId ++ "\" deve informar um rótulo.")
  pure ()

/-- `_validate_question`, after the type. -/
def validateDetails (question : Dict) (questionId : String) : Check Unit := do
  if ((question.lookup "required").getD (.bool false)).bool?.isSome then
    validateOptionalText question "help_text" ("A ajuda da pergunta \"" ++ questionId ++ "\" deve ser textual.")
    validateOptionalText question "placeholder"
      ("O placeholder da pergunta \"" ++ questionId ++ "\" deve ser textual.")
    validateChoice question questionId
    validateLengths question questionId
  else refuse ("A obrigatoriedade da pergunta \"" ++ questionId ++ "\" deve ser booleana.")

/-- `_validate_question`. -/
def validateQuestion (question : Dict) (questionId : String) : Check Unit := do
  validateLabel question questionId
  if ← isIn (Dict.get question "type") questionTypes then validateDetails question questionId
  else refuse ("A pergunta \"" ++ questionId ++ "\" possui um tipo não permitido.")

end Questions

section Answers

variable (validators : Validators)

/-- `for … in value`. -/
def iterate : Value → Check (List Value)
  | .list xs => .ok xs
  | .dict d => .ok (d.map fun kv => .str kv.1)
  | .str s => .ok (s.toList.map fun c => .str (String.ofList [c]))
  | _ => .error .typeError

/-- `_choice_options`. -/
def choiceOptions (question : Dict) : Check (List Value) :=
  match question.lookup "options" with
  | none => .ok []
  | some options => iterate options

/-- `option["value"]`, of an option that is a set member. -/
def optionValue (option : Value) : Check Value :=
  match option with
  | .dict d => match d.lookup "value" with
    | some v => if unhashable v then .error .typeError else .ok v
    | none => .error .keyError
  | _ => .error .typeError

/-- `isinstance(value, int)`, which a boolean is. -/
def int? : Value → Option ℤ
  | .int n => some n
  | .bool b => some (if b then 1 else 0)
  | _ => none

/-- The end of `_coerce_answer`. -/
def checkLengths (question : Dict) (value : String) : Check Value :=
  match Dict.get question "validation" with
  | .dict config =>
    if (int? (Dict.get config "min_length")).any fun minimum => decide ((value.length : ℤ) < minimum) then
      refuse ("Informe ao menos " ++ toString ((int? (Dict.get config "min_length")).getD 0) ++
        " caracteres.")
    else if (int? (Dict.get config "max_length")).any fun maximum =>
        decide (maximum < (value.length : ℤ)) then
      refuse ("Informe no máximo " ++ toString ((int? (Dict.get config "max_length")).getD 0) ++
        " caracteres.")
    else .ok (.str value)
  | _ => .ok (.str value)

def coerceBoolean (raw : Value) : Check Value :=
  match raw with
  | .bool b => .ok (.bool b)
  | .int n =>
    if n = 0 then .ok (.bool false) else if n = 1 then .ok (.bool true) else refuse "Informe Sim ou Não."
  | .str s =>
    if booleanTrue.contains (lower (SC06.strip s.toList)) then .ok (.bool true)
    else if booleanFalse.contains (lower (SC06.strip s.toList)) then .ok (.bool false)
    else refuse "Informe Sim ou Não."
  | _ => refuse "Informe Sim ou Não."

/-- `_coerce_answer`. -/
def coerceRaw (question : Dict) (raw : Value) : Check Value :=
  match question.lookup "type" with
  | none => .error .keyError
  | some (.str "boolean") => coerceBoolean raw
  | some questionType =>
    match raw with
    | .str s => do
      let value := Py.strip s
      match questionType with
      | .str "choice" =>
        let options ← choiceOptions question
        let allowed ← options.mapM optionValue
        if allowed.any fun v => v.str? == some value then checkLengths question value
        else refuse "Selecione uma das opções disponíveis."
      | .str "date" =>
        if validators.isDate value.toList then checkLengths question value
        else refuse "Informe uma data válida."
      | .str "email" =>
        if validators.isEmail value.toList then checkLengths question value
        else refuse "Informe um e-mail válido."
      | _ => checkLengths question value
    | _ => refuse "Informe um valor textual válido."

/-- `_validate_condition_value`. -/
def validateConditionValue (question : Dict) (value : Value) (context : String) : Check Unit :=
  match question.lookup "type" with
  | none => .error .keyError
  | some (.str "boolean") =>
    match value with
    | .bool _ => .ok ()
    | _ => refuse ("A condição de " ++ context ++ " deve comparar um valor booleano.")
  | some _ =>
    match value with
    | .str s =>
      match coerceRaw validators question (.str s) with
      | .error (.validation message) =>
        refuse ("A condição de " ++ context ++ " possui valor incompatível: " ++ message)
      | .error e => .error e
      | .ok normalized =>
        if Value.eq normalized (.str s) then .ok ()
        else
          refuse ("A condição de " ++ context ++
            " deve usar um valor já normalizado, sem espaços externos.")
    | _ => refuse ("A condição de " ++ context ++ " deve comparar um valor textual.")

end Answers

section Conditions

/-- `known_questions` and `question_definitions`. -/
abbrev Definitions := List (String × ℕ × Dict)

variable (validators : Validators) (known : Definitions) (before : ℕ) (context : String)

def validateValues (question : Dict) : List Value → Check Unit
  | [] => .ok ()
  | v :: rest => do
    validateConditionValue validators question v context
    validateValues question rest

/-- The comparison of a condition that is no composite. -/
def validateLeaf (node : Dict) (operator : Value) : Check Unit := do
  validateAllowedKeys node ["field", "operator", "value"] ("A condição de " ++ context)
  match (Dict.get node "field").str? with
  | none => refuse ("A condição de " ++ context ++ " referencia uma pergunta inexistente.")
  | some field =>
    match known.lookup field with
    | none => refuse ("A condição de " ++ context ++ " referencia uma pergunta inexistente.")
    | some (position, question) =>
      if before ≤ position then
        refuse ("A condição de " ++ context ++ " deve referenciar uma pergunta anterior.")
      else
        match node.lookup "value" with
        | none => refuse ("A condição de " ++ context ++ " deve informar um valor de comparação.")
        | some value =>
          if operator.str? = some "in" then do
            let values ← requireList value
              ("O operador \"in\" da condição de " ++ context ++ " exige uma lista.")
            if values.isEmpty then
              refuse ("O operador \"in\" da condição de " ++ context ++ " exige ao menos um valor.")
            else validateValues validators context question values
          else validateConditionValue validators question value context

/-- The children of a composite. -/
def compositeChildren (node : Dict) : Check (List Value) := do
  validateAllowedKeys node ["operator", "conditions"] ("A condição composta de " ++ context)
  let children ← requireList (Dict.get node "conditions")
    ("A condição composta de " ++ context ++ " deve conter condições filhas.")
  if children.isEmpty then
    refuse ("A condição composta de " ++ context ++ " deve conter condições filhas.")
  else pure children

/-- One check after another. -/
def each (check : Value → Check Unit) : List Value → Check Unit
  | [] => .ok ()
  | v :: rest => do
    check v
    each check rest

/-- `_validate_condition`, with the levels that are left. -/
def validateCondition : ℕ → Value → Check Unit
  | 0, _ => refuse ("A condição de " ++ context ++ " excede o limite de níveis.")
  | levels + 1, condition => do
    let node ← requireMapping condition ("A condição de " ++ context ++ " deve ser um objeto JSON.")
    let operator := Dict.get node "operator"
    if ← isIn operator compositeOperators then
      let children ← compositeChildren context node
      each (validateCondition levels) children
    else if ← isIn operator leafOperators then
      validateLeaf validators known before context node operator
    else refuse ("A condição de " ++ context ++ " possui um operador não permitido.")

/-- A `visible_when`, if any; ten levels at most. -/
def validateVisibleWhen (condition : Value) : Check Unit :=
  match condition with
  | .none => .ok ()
  | condition => validateCondition validators known before context 10 condition

end Conditions

section Schema

variable (validators : Validators)

/-- The identifier of a question, which is new. -/
def questionHead (sectionId : String) (known : Definitions) (raw : Value) : Check (String × Dict) := do
  let question ← requireMapping raw
    ("As perguntas da seção \"" ++ sectionId ++ "\" devem ser objetos JSON.")
  let questionId ← validateIdentifier (Dict.get question "id")
    ("Uma pergunta da seção \"" ++ sectionId ++ "\" possui identificador inválido.")
  if (known.lookup questionId).isSome then
    refuse ("A pergunta \"" ++ questionId ++ "\" está duplicada no schema.")
  else pure (questionId, question)

/-- The questions of a section. -/
def validateQuestions (sectionId : String) : List Value → Definitions → Check Definitions
  | [], known => .ok known
  | raw :: rest, known => do
    let head ← questionHead sectionId known raw
    validateQuestion head.2 head.1
    validateQuestions sectionId rest (known ++ [(head.1, known.length, head.2)])

/-- A section up to its questions. -/
def sectionHead (index : ℕ) (ids : List String) (raw : Value) : Check (String × List Value) := do
  let place := "A seção " ++ toString index
  let s ← requireMapping raw (place ++ " deve ser um objeto JSON.")
  validateAllowedKeys s sectionKeys place
  let sectionId ← validateIdentifier (Dict.get s "id") (place ++ " deve ter um identificador válido.")
  if ids.contains sectionId then refuse ("A seção \"" ++ sectionId ++ "\" está duplicada no schema.")
  else
    let _ ← requireNonEmptyText (Dict.get s "title")
      ("A seção \"" ++ sectionId ++ "\" deve informar um título.")
    validateOptionalText s "description"
      ("A descrição da seção \"" ++ sectionId ++ "\" deve ser textual.")
    let questions ← requireList (Dict.get s "questions")
      ("A seção \"" ++ sectionId ++ "\" deve conter uma lista de perguntas.")
    if questions.isEmpty then
      refuse ("A seção \"" ++ sectionId ++ "\" deve conter ao menos uma pergunta.")
    else pure (sectionId, questions)

/-- The first loop of `validate_template_schema`. -/
def validateSections : ℕ → List Value → List String → Definitions → Check Definitions
  | _, [], _, known => .ok known
  | index, raw :: rest, ids, known => do
    let head ← sectionHead index ids raw
    let known ← validateQuestions head.1 head.2 known
    validateSections (index + 1) rest (ids ++ [head.1]) known

/-- `value[key]` of an object. -/
def item (v : Value) (key : String) : Check Value :=
  match v with
  | .dict d => match d.lookup key with
    | some w => .ok w
    | none => .error .keyError
  | _ => .error .typeError

/-- `value.get(key)` of an object. -/
def getOf (v : Value) (key : String) : Check Value :=
  match v with
  | .dict d => .ok (Dict.get d key)
  | _ => .error .attributeError

/-- `value[key]`, to iterate over. -/
def itemList (v : Value) (key : String) : Check (List Value) := do
  let xs ← item v key
  iterate xs

/-- `value[key]` of a checked identifier, a text. -/
def itemText (v : Value) (key : String) : Check String := do
  match ← item v key with
  | .str s => pure s
  | _ => .error .typeError

/-- The conditions of the questions of a section. -/
def conditionsOfQuestions (known : Definitions) : ℕ → List Value → Check ℕ
  | position, [] => .ok position
  | position, question :: rest => do
    let questionId ← itemText question "id"
    let condition ← getOf question "visible_when"
    validateVisibleWhen validators known position ("a pergunta \"" ++ questionId ++ "\"") condition
    conditionsOfQuestions known (position + 1) rest

/-- The second loop of `validate_template_schema`. -/
def conditionsOfSections (known : Definitions) : ℕ → List Value → Check Unit
  | _, [] => .ok ()
  | position, s :: rest => do
    let sectionId ← itemText s "id"
    let condition ← getOf s "visible_when"
    validateVisibleWhen validators known position ("a seção \"" ++ sectionId ++ "\"") condition
    let questions ← itemList s "questions"
    let position ← conditionsOfQuestions validators known position questions
    conditionsOfSections known position rest

/-- The sections of a schema. -/
def schemaHead (schema : Value) : Check (List Value) := do
  let root ← requireMapping schema "O schema do briefing deve ser um objeto JSON."
  validateAllowedKeys root rootKeys "O schema"
  let _ ← requireNonEmptyText (Dict.get root "title") "O schema deve informar um título."
  validateOptionalText root "description" "A descrição do schema deve ser textual."
  let sections ← requireList (Dict.get root "sections")
    "O schema deve conter uma lista não vazia de seções."
  if sections.isEmpty then refuse "O schema deve conter ao menos uma seção." else pure sections

/-- `validate_template_schema`. -/
def validateTemplateSchema (schema : Value) : Check Unit := do
  let sections ← schemaHead schema
  let known ← validateSections 1 sections [] []
  conditionsOfSections validators known 0 sections

end Schema

section Evaluate

variable (answers : Dict)

/-- The comparison of a condition that is no composite. -/
def evaluateLeaf (node : Dict) (operator : Value) : Check Bool := do
  if ← isIn operator leafOperators then
    match (Dict.get node "field").str? with
    | none => refuse "A condição deve referenciar uma pergunta válida."
    | some field =>
      if field = "" then refuse "A condição deve referenciar uma pergunta válida."
      else
        let actual := Dict.get answers field
        let expected := Dict.get node "value"
        if operator.str? = some "equals" then pure (Value.eq actual expected)
        else if operator.str? = some "not_equals" then pure (!Value.eq actual expected)
        else
          let values ← requireList expected "O operador \"in\" exige uma lista de valores."
          pure (values.any (Value.eq actual))
  else refuse "A condição possui um operador não permitido."

mutual

/-- `evaluate_condition`. -/
def evaluateCondition : Value → Check Bool
  | .none => .ok true
  | .dict node => do
    if ← isIn (Dict.get node "operator") compositeOperators then
      let results ← childResults node
      pure (if (Dict.get node "operator").str? = some "all" then results.all id else results.any id)
    else evaluateLeaf answers node (Dict.get node "operator")
  | _ => refuse "A condição deve ser um objeto JSON."

/-- The results of `node["conditions"]`. -/
def childResults : Dict → Check (List Bool)
  | [] => refuse "Uma condição composta deve conter condições filhas."
  | (key, children) :: rest => if "conditions" == key then resultsOf children else childResults rest

def resultsOf : Value → Check (List Bool)
  | .list [] => refuse "Uma condição composta deve conter condições filhas."
  | .list (child :: rest) => evaluateEach (child :: rest)
  | _ => refuse "Uma condição composta deve conter condições filhas."

def evaluateEach : List Value → Check (List Bool)
  | [] => .ok []
  | child :: rest => do
    let result ← evaluateCondition child
    let results ← evaluateEach rest
    pure (result :: results)

end

end Evaluate

section Interpret

variable {σ : Type} (validators : Validators)

/-- The loop of the interpreters: the items whose condition holds of the answers seen so far. -/
def eachVisible (seen : σ → Dict) (visit : Value → σ → Check σ) : List Value → σ → Check σ
  | [], w => .ok w
  | x :: rest, w => do
    let condition ← getOf x "visible_when"
    if ← evaluateCondition (seen w) condition then
      let w ← visit x w
      eachVisible seen visit rest w
    else eachVisible seen visit rest w

/-- `dict(value)`. -/
def copyOf (v : Value) : Check Dict :=
  match v with
  | .dict d => .ok d
  | _ => .error .typeError

/-- `with suppress(ValidationError)`. -/
def suppressed {α : Type} (x : Check α) : Check (Option α) :=
  match x with
  | .ok a => .ok (some a)
  | .error (.validation _) => .ok none
  | .error e => .error e

/-- The answers seen and the active items, in `get_active_sections`. -/
structure Active where
  effective : Dict
  items : List Value

variable (answers : Dict)

/-- An active question of `get_active_sections`. -/
def activeQuestion (question : Value) (w : Active) : Check Active := do
  let copy ← copyOf question
  let questionId ← itemText question "id"
  match answers.lookup questionId with
  | none => pure ⟨w.effective, w.items ++ [.dict copy]⟩
  | some raw =>
    match ← suppressed (coerceRaw validators copy raw) with
    | some value => pure ⟨w.effective.set questionId value, w.items ++ [.dict copy]⟩
    | none => pure ⟨w.effective, w.items ++ [.dict copy]⟩

/-- An active section of `get_active_sections`. -/
def activeSection (s : Value) (w : Active) : Check Active := do
  let questions ← itemList s "questions"
  let inner ← eachVisible Active.effective (activeQuestion validators answers) questions ⟨w.effective, []⟩
  let copy ← copyOf s
  pure ⟨inner.effective, w.items ++ [.dict (copy.set "questions" (.list inner.items))]⟩

/-- `get_active_sections`. -/
def getActiveSections (schema : Value) : Check (List Value) := do
  validateTemplateSchema validators schema
  let sections ← itemList schema "sections"
  let w ← eachVisible Active.effective (activeSection validators answers) sections ⟨[], []⟩
  pure w.items

/-- `get_active_questions`. -/
def getActiveQuestions (schema : Value) : Check (List Value) := do
  let sections ← getActiveSections validators answers schema
  let questions ← sections.mapM fun s => itemList s "questions"
  pure questions.flatten

/-- `_is_empty`. -/
def isEmpty : Value → Bool
  | .none => true
  | .str s => s == ""
  | .list xs => xs.isEmpty
  | _ => false

/-- `bool(value)`. -/
def truthy : Value → Bool
  | .none => false
  | .bool b => b
  | .int n => n != 0
  | .float q => q != 0
  | .str s => s != ""
  | .list xs => !xs.isEmpty
  | .dict d => !d.isEmpty

abbrev Errors := List (String × List String)

/-- `errors[field] = …`. -/
def setErrors (field : String) (messages : List String) : Errors → Errors
  | [] => [(field, messages)]
  | (f, old) :: rest =>
    if f = field then (f, messages) :: rest else (f, old) :: setErrors field messages rest

/-- `errors.setdefault(field, []).append(message)`. -/
def addError (field message : String) : Errors → Errors
  | [] => [(field, [message])]
  | (f, old) :: rest =>
    if f = field then (f, old ++ [message]) :: rest else (f, old) :: addError field message rest

/-- The sanitized answers and the field errors, in `sanitize_answers`. -/
structure Sanitized where
  answers : Dict
  errors : Errors

variable (requireComplete : Bool)

/-- An active question of `sanitize_answers`; the error of an answer is recorded. -/
def sanitizeQuestion (question : Value) (w : Sanitized) : Check Sanitized := do
  let questionId ← itemText question "id"
  let copy ← copyOf question
  match answers.lookup questionId with
  | some raw =>
    if isEmpty raw then pure (missing copy questionId)
    else
      match coerceRaw validators copy raw with
      | .ok value => pure { w with answers := w.answers.set questionId value }
      | .error (.validation message) => pure { w with errors := setErrors questionId [message] w.errors }
      | .error e => .error e
  | none => pure (missing copy questionId)
where
  /-- A question without an answer. -/
  missing (question : Dict) (questionId : String) : Sanitized :=
    if requireComplete && truthy ((question.lookup "required").getD (.bool false)) then
      { w with errors := setErrors questionId ["Este campo é obrigatório."] w.errors }
    else w

/-- An active section of `sanitize_answers`. -/
def sanitizeSection (s : Value) (w : Sanitized) : Check Sanitized := do
  let questions ← itemList s "questions"
  eachVisible Sanitized.answers (sanitizeQuestion validators answers requireComplete) questions w

variable (u : Unicode)

/-- The married partner that no declared item matches. -/
def undeclaredPartner (sanitized : Dict) : Option String :=
  if Dict.isTrue sanitized "has_married_partner" then
    match (Dict.get sanitized "married_partner_name").str?, (Dict.get sanitized "partner_names").str? with
    | some married, some partners =>
      if isBlank married = false ∧ isBlank partners = false ∧
          isPartnerDeclared u married.toList partners.toList = false then some married
      else none
    | _, _ => none
  else none

/-- `sanitize_answers`: the answers, or the field errors it raises as a `ValidationError`. -/
def sanitizeAnswers (schema : Value) : Check (Except Errors Dict) := do
  validateTemplateSchema validators schema
  let sections ← itemList schema "sections"
  let w ← eachVisible Sanitized.answers (sanitizeSection validators answers requireComplete) sections
    ⟨[], []⟩
  let errors := match if requireComplete then undeclaredPartner u w.answers else none with
    | some married => addError "married_partner_name" (partnerMessage married.toList) w.errors
    | none => w.errors
  pure (if errors.isEmpty then .ok w.answers else .error errors)

variable (str : Value → String)

/-- The label of the option with this value. -/
def optionLabel (value : Value) : List Value → Check (Option String)
  | [] => .ok none
  | option :: rest => do
    let optionValue ← getOf option "value"
    if Value.eq optionValue value then
      let copy ← copyOf option
      pure (some (str ((copy.lookup "label").getD value)))
    else optionLabel value rest

/-- `format_answer`, with Python's `str`. -/
def formatAnswer (question : Dict) (value : Value) : Check String :=
  match Dict.get question "type", value with
  | .str "boolean", .bool b => .ok (if b then "Sim" else "Não")
  | .str "choice", value => do
    let options ← choiceOptions question
    let label ← optionLabel str value options
    pure (label.getD (str value))
  | .str "date", .str s =>
    .ok (match fromIsoFormat s.toList with
      | some day => String.ofList (strftime day)
      | none => s)
  | _, value => .ok (str value)

/-- The record of one answered question. -/
def formatQuestion (sectionId sectionTitle : Value) (question : Value) : Check (Option Value) := do
  let questionId ← itemText question "id"
  match answers.lookup questionId with
  | none => pure none
  | some value =>
    let label ← item question "label"
    let questionType ← item question "type"
    let copy ← copyOf question
    let display ← formatAnswer str copy value
    pure (some (.dict [("section_id", sectionId), ("section_title", sectionTitle),
      ("question_id", .str questionId), ("question_label", label), ("question_type", questionType),
      ("value", value), ("display_value", .str display)]))

/-- The records of one section. -/
def formatSection (s : Value) : Check (List Value) := do
  let sectionId ← item s "id"
  let sectionTitle ← item s "title"
  let questions ← itemList s "questions"
  let formatted ← questions.mapM (formatQuestion answers str sectionId sectionTitle)
  pure (formatted.filterMap id)

/-- `format_answers`. -/
def formatAnswers (schema : Value) : Check (List Value) := do
  let sections ← getActiveSections validators answers schema
  let formatted ← sections.mapM (formatSection answers str)
  pure formatted.flatten

end Interpret

section Backward

/-- The condition of a section or a question. -/
def conditionOf (v : Value) : Value :=
  match v with
  | .dict d => Dict.get d "visible_when"
  | _ => .none

/-- The list under a key: the sections of a schema, the questions of a section. -/
def listOf (key : String) (v : Value) : List Value :=
  match v with
  | .dict d => ((Dict.get d key).list?).getD []
  | _ => []

/-- The questions of a section. -/
def questionsOf (s : Value) : List Value := listOf "questions" s

/-- The identifier of a question. -/
def idOf (question : Value) : String :=
  match question with
  | .dict d => ((Dict.get d "id").str?).getD ""
  | _ => ""

/-- A condition, or one it is composed of, compares the answer of this question. -/
inductive Refers : Value → String → Prop
  | leaf {node : Dict} {field : String} : isIn (Dict.get node "operator") compositeOperators = .ok false →
      Dict.get node "field" = .str field → Refers (.dict node) field
  | child {node : Dict} {children : List Value} {condition : Value} {field : String} :
      isIn (Dict.get node "operator") compositeOperators = .ok true →
      Dict.get node "conditions" = .list children → condition ∈ children → Refers condition field →
      Refers (.dict node) field

/-- The conditions of these questions refer to questions before them. -/
def BackwardQuestions : List String → List Value → Prop
  | _, [] => True
  | earlier, question :: rest =>
    (∀ field, Refers (conditionOf question) field → field ∈ earlier) ∧
      BackwardQuestions (earlier ++ [idOf question]) rest

/-- The conditions of these sections, and of their questions, refer to questions before them. -/
def BackwardSections : List String → List Value → Prop
  | _, [] => True
  | earlier, s :: rest =>
    (∀ field, Refers (conditionOf s) field → field ∈ earlier) ∧
      BackwardQuestions earlier (questionsOf s) ∧
      BackwardSections (earlier ++ (questionsOf s).map idOf) rest

/-- Every condition of a schema refers to earlier questions. -/
def Backward (schema : Value) : Prop := BackwardSections [] (listOf "sections" schema)

/-- The conditions of a schema. -/
def schemaConditions (schema : Value) : List Value :=
  (listOf "sections" schema).flatMap fun s => conditionOf s :: (questionsOf s).map conditionOf

end Backward

section Reaches

variable (validators : Validators)

/-- One of the values is reached, past others that pass. -/
def EachReaches (check : Value → Check Unit) (reaches : Value → Prop) : List Value → Prop
  | [] => False
  | v :: rest => reaches v ∨ check v = .ok () ∧ EachReaches check reaches rest

/-- The validator gets to an operator without a hash in this condition. -/
def ConditionReaches (known : Definitions) (before : ℕ) (context : String) : ℕ → Value → Prop
  | 0, _ => False
  | levels + 1, condition => ∃ node, condition = .dict node ∧
      (unhashable (Dict.get node "operator") = true ∨
        isIn (Dict.get node "operator") compositeOperators = .ok true ∧
        ∃ children, compositeChildren context node = .ok children ∧
          EachReaches (validateCondition validators known before context levels)
            (ConditionReaches known before context levels) children)

/-- The validator gets to a type without a hash in these questions. -/
def QuestionsReach (sectionId : String) : List Value → Definitions → Prop
  | [], _ => False
  | raw :: rest, known => ∃ head, questionHead sectionId known raw = .ok head ∧
      (validateLabel head.2 head.1 = .ok () ∧ unhashable (Dict.get head.2 "type") = true ∨
        validateQuestion head.2 head.1 = .ok () ∧
          QuestionsReach sectionId rest (known ++ [(head.1, known.length, head.2)]))

/-- The validator gets to a type without a hash in these sections. -/
def SectionsReach : ℕ → List Value → List String → Definitions → Prop
  | _, [], _, _ => False
  | index, raw :: rest, ids, known => ∃ head, sectionHead index ids raw = .ok head ∧
      (QuestionsReach head.1 head.2 known ∨
        ∃ extended, validateQuestions head.1 head.2 known = .ok extended ∧
          SectionsReach (index + 1) rest (ids ++ [head.1]) extended)

/-- The validator gets to an operator without a hash in the conditions of these questions. -/
def QuestionConditionsReach (known : Definitions) : ℕ → List Value → Prop
  | _, [] => False
  | position, question :: rest =>
    ConditionReaches validators known position ("a pergunta \"" ++ idOf question ++ "\"") 10
        (conditionOf question) ∨
      validateVisibleWhen validators known position ("a pergunta \"" ++ idOf question ++ "\"")
        (conditionOf question) = .ok () ∧ QuestionConditionsReach known (position + 1) rest

/-- The validator gets to an operator without a hash in the conditions of these sections. -/
def SectionConditionsReach (known : Definitions) : ℕ → List Value → Prop
  | _, [] => False
  | position, s :: rest =>
    ConditionReaches validators known position ("a seção \"" ++ idOf s ++ "\"") 10 (conditionOf s) ∨
      validateVisibleWhen validators known position ("a seção \"" ++ idOf s ++ "\"") (conditionOf s) =
          .ok () ∧
        (QuestionConditionsReach validators known position (questionsOf s) ∨
          conditionsOfQuestions validators known position (questionsOf s) =
              .ok (position + (questionsOf s).length) ∧
            SectionConditionsReach known (position + (questionsOf s).length) rest)

/-- The validator gets to a type or to an operator without a hash. -/
def ReachesUnhashable (schema : Value) : Prop :=
  ∃ sections, schemaHead schema = .ok sections ∧
    (SectionsReach 1 sections [] [] ∨
      ∃ known, validateSections 1 sections [] [] = .ok known ∧
        SectionConditionsReach validators known 0 sections)

end Reaches

end SheepContabil.SC06.Json
