import SheepContabil.Py.JsonSchema
import SheepContabil.Spec.Sc04Policy
import SheepContabil.Spec.Sc20Gateways

/-!
# SC-04: the classifier

The call of the provider in `OpenAIDocumentClassifier.classify`, what its exceptions become, and
the schema that the request asks the provider to keep. The response has to pass
`validateResponse`, whatever the provider did with the schema.

* `responseSchema`: `_response_schema`.
* `classify`: `build_document_classifier` and `classify`, from what the provider does.
-/

namespace SheepContabil

/-- The subclasses of `ClassifierError`. -/
inductive ClassifierErrorKind where
  | unavailable | invalidResponse | permanent
  deriving DecidableEq, Repr

/-- `code`. -/
def ClassifierErrorKind.code : ClassifierErrorKind → String
  | unavailable => "classifier_unavailable"
  | invalidResponse => "classifier_invalid_response"
  | permanent => "classifier_permanent_error"

structure ClassifierError where
  kind : ClassifierErrorKind
  message : String
  deriving DecidableEq, Repr

/-- The validator's view of a value that `json.loads` returned. -/
def PyObject.view : PyObject → JsonSchema.View PyObject
  | .none => .null
  | .bool b => .boolean b
  | .int n => .number (some n)
  | .float q => .number q
  | .str s => .string s
  | .list xs => .array xs
  | .mapping kvs => .object kvs
  | .other => .other

/-- The schema of `client_code`. -/
def clientSchema (clientCodes : List String) : JsonSchema.Schema :=
  if clientCodes.isEmpty then .null else .anyOf [.string (some clientCodes) none, .null]

/-- `_response_schema`. -/
def responseSchema (clientCodes : List String) : JsonSchema.Schema :=
  .object
    [("document_type", .string (some (DocumentType.values.map (·.1))) none),
      ("type_confidence", .number 0 1),
      ("client_code", clientSchema clientCodes),
      ("client_confidence", .number 0 1),
      ("is_ambiguous", .boolean),
      ("evidence", .array 1 3 (.string none (some 200)))]
    ["document_type", "type_confidence", "client_code", "client_confidence", "is_ambiguous",
      "evidence"]

/-- The fields of a response that `classify` reads. -/
structure ProviderResponse where
  status : String
  outputText : String
  id : String
  model : String
  deriving DecidableEq, Repr

/-- How `responses.create` ends. -/
inductive ProviderOutcome where
  | timeout | connection | rateLimit | internalServer
  | apiStatus (statusCode : ℕ)
  | openAI
  | raised (e : PythonException)
  | response (r : ProviderResponse)

/-- What the classifier raises. -/
inductive ClassifierException where
  | classifier (e : ClassifierError)
  | python (e : PythonException)

/-- What `classify` raises for an error of `_validate_response`. -/
def ResponseError.raised : ResponseError → ClassifierException
  | invalid message => .classifier ⟨.invalidResponse, message⟩
  | overflow => .python (.exception "OverflowError")

/-- `_validate_response`, as `classify` raises its error. -/
def validated (clientCodes : List String) (value : PyObject) :
    Except ClassifierException ClassificationPrediction :=
  (validateResponse value clientCodes).mapError ResponseError.raised

/-- `classify`, from what the provider does; `loads` is `json.loads`, without its
`JSONDecodeError`. -/
def classifyOutcome (loads : String → Option PyObject) (clientCodes : List String) :
    ProviderOutcome → Except ClassifierException ProviderPrediction
  | .timeout | .connection | .rateLimit | .internalServer =>
    .error (.classifier ⟨.unavailable, "O classificador está temporariamente indisponível."⟩)
  | .apiStatus statusCode =>
    if [408, 409, 429].contains statusCode || decide (500 ≤ statusCode) then
      .error (.classifier ⟨.unavailable, "O classificador está temporariamente indisponível."⟩)
    else .error (.classifier ⟨.permanent, "O classificador recusou a solicitação."⟩)
  | .openAI =>
    .error (.classifier ⟨.permanent, "O classificador não pôde processar o documento."⟩)
  | .raised e => .error (.python e)
  | .response r =>
    if r.status ≠ "completed" ∨ r.outputText = "" then
      .error (.classifier ⟨.invalidResponse, "O classificador não retornou uma resposta completa."⟩)
    else
      match loads r.outputText with
      | none =>
        .error (.classifier ⟨.invalidResponse, "O classificador retornou uma resposta inválida."⟩)
      | some decoded => do
        let validated ← validated clientCodes decoded
        .ok { validated, providerResponseId := r.id, model := r.model }

/-- `build_document_classifier`, then `classify`. The settings may lack the key or the model. -/
def classify (configured : Bool) (loads : String → Option PyObject) (clientCodes : List String)
    (outcome : ProviderOutcome) : Except ClassifierException ProviderPrediction :=
  if !configured then
    .error (.classifier ⟨.unavailable, "A classificação por IA ainda não está configurada."⟩)
  else classifyOutcome loads clientCodes outcome

end SheepContabil
