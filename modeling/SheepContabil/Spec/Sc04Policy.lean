import SheepContabil.Py.Regex
import SheepContabil.Spec.Sc04Routing
import SheepContabil.Spec.Traceability

/-!
# SC-04: the routing policy

What happens to a claimed document once its text is extracted: the exact match of a
client in the text, the validation of the classifier's response, and the decision
between a route and a review.

* `exactClientMatch`: `_exact_client_match` over the catalogue.
* `validateResponse`: `_validate_response`.
* `processResponse`: the end of `_process_document`, from the response on.
-/

namespace SheepContabil

open Py

inductive DocumentType where
  | invoice | taxPayment | bankStatement | payroll | corporateRecord | other | unknown
  deriving DecidableEq, Repr

/-- `DocumentType.values`. -/
def DocumentType.values : List (String × DocumentType) :=
  [("invoice", .invoice), ("tax_payment", .taxPayment), ("bank_statement", .bankStatement),
    ("payroll", .payroll), ("corporate_record", .corporateRecord), ("other", .other),
    ("unknown", .unknown)]

inductive DocumentReviewReason where
  | lowConfidence | ambiguousClient | unknownClient | unknownType | classifierUnavailable
  | invalidResponse
  deriving DecidableEq, Repr

/-- A row of `FiscalClient`; `aliases` is a JSON column. -/
structure FiscalClient where
  code : String
  name : String
  documentNumber : String
  aliases : Value := .list []

/-- What `unicodedata` and `str.casefold` say about a character. -/
structure UnicodeData where
  casefold : Char → List Char
  nfkd : List Char → List Char
  combining : Char → Bool

section Matching

/-- A blank, a point, a slash or a hyphen: what may stand between two digits of a number. -/
def isNumberSeparator (c : Char) : Bool := isSpace c || c == '.' || c == '/' || c == '-'

/-- The pattern of `_exact_client_match`: 11 to 14 digits with separators between them, and no digit
before or after. -/
def documentNumberPattern : Pattern :=
  .seq (.notBehind isDecimal)
    (.seq (.rep (.seq (.char isDecimal) (.many isNumberSeparator)) 10 3)
      (.seq (.char isDecimal) (.notAhead isDecimal)))

/-- `document_numbers` of `_exact_client_match`. -/
def documentNumbersIn (text : String) : List String :=
  (((documentNumberPattern.findall text.toList).map onlyDecimals).filter fun digits =>
    digits.length == 11 || digits.length == 14).map String.ofList

/-- `_validated_aliases`. -/
def validatedAliases (value : Value) : List String :=
  match value with
  | .list items => items.filterMap fun item =>
      item.str?.bind fun s => if strip s = "" then none else some (strip s)
  | _ => []

/-- `[a-z0-9]`. -/
def isPlainAlnum (c : Char) : Bool := ('a' ≤ c && c ≤ 'z') || ('0' ≤ c && c ≤ '9')

/-- The words of a text: its maximal runs of `[a-z0-9]`. -/
def plainWords : List Char → List (List Char) :=
  fun text => (text.splitOnP fun c => !isPlainAlnum c).filter (· ≠ [])

/-- `_normalize_match_text`: the words, with one blank between them. -/
def normalizeMatchText (unicode : UnicodeData) (value : String) : List Char :=
  List.intercalate [' '] (plainWords
    ((unicode.nfkd (value.toList.flatMap unicode.casefold)).filter fun c => !unicode.combining c))

/-- `f" {normalized} " in normalized_text`, for a candidate of at least four characters. -/
def namesClient (unicode : UnicodeData) (text candidate : String) : Bool :=
  let normalized := normalizeMatchText unicode candidate
  4 ≤ normalized.length &&
    (' ' :: (normalizeMatchText unicode text ++ [' '])).tails.any
      (' ' :: (normalized ++ [' '])).isPrefixOf

/-- A client one of whose names is in the text. -/
def isNamed (unicode : UnicodeData) (text : String) (client : FiscalClient) : Bool :=
  (client.name :: validatedAliases client.aliases).any (namesClient unicode text)

/-- `_exact_client_match`. -/
def exactClientMatch (unicode : UnicodeData) (text : String) (clients : List FiscalClient) :
    Option FiscalClient × Bool :=
  match clients.filter fun client => (documentNumbersIn text).contains client.documentNumber with
  | [client] => (some client, false)
  | _ :: _ :: _ => (none, true)
  | [] =>
    match clients.filter (isNamed unicode text) with
    | [client] => (some client, false)
    | matched => (none, 1 < matched.length)

end Matching

section Response

/-- What `_validate_response` raises: `ClassifierInvalidResponse`, with its message, or the
`OverflowError` of `float(value)`. -/
inductive ResponseError where
  | invalid (message : String)
  | overflow
  deriving DecidableEq, Repr

/-- The validated part of `ClassificationPrediction`. -/
structure ClassificationPrediction where
  documentType : DocumentType
  typeConfidence : ℚ
  clientCode : Option String
  clientConfidence : ℚ
  isAmbiguous : Bool
  evidence : List String

/-- `float(n)` raises `OverflowError`: the nearest binary64 number, with 53 bits, is `2 ^ 1024`. -/
def floatOverflows (n : ℤ) : Bool := decide (2 ^ 1024 - 2 ^ 970 ≤ n.natAbs)

/-- `_confidence`: a number that is no boolean, between 0 and 1. -/
def confidence : PyObject → Except ResponseError ℚ
  | .int n => if floatOverflows n then .error .overflow else inRange n
  | .float (some q) => inRange q
  | .float none => .error (.invalid "O classificador retornou confiança fora da faixa.")
  | _ => .error (.invalid "O classificador retornou confiança inválida.")
where
  inRange (q : ℚ) : Except ResponseError ℚ :=
    if 0 ≤ q ∧ q ≤ 1 then .ok q
    else .error (.invalid "O classificador retornou confiança fora da faixa.")

/-- The loop over the evidence. -/
def normalizedEvidence : List PyObject → Except ResponseError (List String)
  | [] => .ok []
  | .str item :: rest =>
    if strip item = "" ∨ item.length > 200 then
      .error (.invalid "O classificador retornou evidências inválidas.")
    else do .ok (strip item :: (← normalizedEvidence rest))
  | _ :: _ => .error (.invalid "O classificador retornou evidências inválidas.")

/-- `set(value) != expected`, of the keys of a dictionary. -/
def hasResponseFields (kvs : List (Option String × PyObject)) : Bool :=
  let expected := ["document_type", "type_confidence", "client_code", "client_confidence",
    "is_ambiguous", "evidence"]
  kvs.all (fun kv => kv.1.any expected.contains) &&
    expected.all fun k => kvs.any (·.1 == some k)

/-- `value[k]`. -/
def field (kvs : List (Option String × PyObject)) (k : String) : PyObject :=
  (kvs.lookup (some k)).getD .none

/-- `_validate_response`. -/
def validateResponse (value : PyObject) (allowedClients : List String) :
    Except ResponseError ClassificationPrediction :=
  match value with
  | .mapping kvs =>
    if !hasResponseFields kvs then .error (.invalid "O classificador retornou campos inesperados.")
    else do
      let documentType ← match field kvs "document_type" with
        | .str s => match DocumentType.values.lookup s with
          | some t => .ok t
          | none => .error (.invalid "O classificador retornou um tipo desconhecido.")
        | _ => .error (.invalid "O classificador retornou um tipo desconhecido.")
      let typeConfidence ← confidence (field kvs "type_confidence")
      let clientConfidence ← confidence (field kvs "client_confidence")
      let clientCode ← match field kvs "client_code" with
        | .none => .ok none
        | .str code =>
          if allowedClients.contains code then .ok (some code)
          else .error (.invalid "O classificador retornou um cliente desconhecido.")
        | _ => .error (.invalid "O classificador retornou um cliente desconhecido.")
      let isAmbiguous ← match field kvs "is_ambiguous" with
        | .bool b => .ok b
        | _ => .error (.invalid "O classificador retornou ambiguidade inválida.")
      let evidence ← match field kvs "evidence" with
        | .list items =>
          if items.isEmpty || items.length > 3 then
            .error (.invalid "O classificador retornou evidências inválidas.")
          else normalizedEvidence items
        | _ => .error (.invalid "O classificador retornou evidências inválidas.")
      .ok { documentType, typeConfidence, clientCode, clientConfidence, isAmbiguous, evidence }
  | _ => .error (.invalid "O classificador retornou uma resposta inválida.")

end Response

section Policy

/-- `_review_reason`. -/
def reviewReason (threshold : ℚ) (documentType : DocumentType) (typeConfidence : ℚ)
    (client : Option FiscalClient) (clientConfidence : ℚ) (isAmbiguous : Bool) :
    Option DocumentReviewReason :=
  if isAmbiguous then some .ambiguousClient
  else if documentType = .unknown ∨ documentType = .other then some .unknownType
  else if client.isNone then some .unknownClient
  else if typeConfidence < threshold ∨ clientConfidence < threshold then some .lowConfidence
  else none

/-- `DocumentDecision`. -/
structure DocumentDecision where
  documentType : DocumentType
  client : FiscalClient
  origin : DocumentDecisionOrigin

/-- The document after the classification: its rows, what its decision says, the reason of its
review, and the columns the classification writes. -/
structure ClassifiedDocument where
  rows : DocumentRows
  decision : Option DocumentDecision := none
  reason : Option DocumentReviewReason := none
  classifiedType : Option DocumentType := none
  matchedClient : Option FiscalClient := none
  clientConfidence : Option ℚ := none
  evidence : List String := []
  lastError : String := ""

/-- `ClassificationPrediction`, with the columns that identify the response. -/
structure ProviderPrediction where
  validated : ClassificationPrediction
  providerResponseId : String
  model : String

/-- PostgreSQL has no U+0000, in a text or in `jsonb`. -/
def hasNul (s : String) : Bool := s.toList.contains '\x00'

/-- A `CharField` of 120 characters takes the text. -/
def fitsColumn (s : String) : Bool := decide (s.length ≤ 120) && !hasNul s

/-- The columns that `_complete_attempt` and the update of the document write take the prediction. -/
def ProviderPrediction.isStorable (p : ProviderPrediction) : Bool :=
  p.validated.evidence.all (!hasNul ·) && fitsColumn p.providerResponseId && fitsColumn p.model

/-- The transaction of `_process_document` after `_lock_current_delivery`. `none` is a rejected row,
which rolls back. -/
def applyPrediction (rows : DocumentRows) (threshold : ℚ) (exact : Option FiscalClient)
    (ambiguousAlias : Bool) (prediction : ProviderPrediction)
    (predictedClient : Option FiscalClient) : Option ClassifiedDocument :=
  if !prediction.isStorable then none
  else
    let prediction := prediction.validated
    let finalClient := exact.or predictedClient
    let finalClientConfidence := if exact.isSome then 1 else prediction.clientConfidence
    let evidence := prediction.evidence ++
      if exact.isSome then ["Cliente confirmado por identificador ou alias sintético exato."] else []
    let document : ClassifiedDocument :=
      { rows := rows, classifiedType := some prediction.documentType, matchedClient := finalClient
        clientConfidence := some finalClientConfidence, evidence := evidence.take 4 }
    match reviewReason threshold prediction.documentType prediction.typeConfidence finalClient
        finalClientConfidence (ambiguousAlias || prediction.isAmbiguous), finalClient with
    | some reason, _ => some { document with rows := rows.openReview, reason := some reason }
    | none, none => none
    | none, some client => (rows.decide_ .automatic).map fun rows =>
        { document with rows := rows, decision := some ⟨prediction.documentType, client, .automatic⟩ }

/-- `_mark_document_failed`, after an exception that names no storage and no validation. -/
def markFailed (rows : DocumentRows) : ClassifiedDocument :=
  { rows := { rows with status := .failed }
    lastError := "O documento não pôde ser concluído nesta execução." }

/-- The end of `_process_document`, from the response of the classifier on. An invalid response opens
a review (`_record_classifier_failure`); any other exception, and a rejected row, fail the document.
`activeClient` is the query of an active client by its code in the transaction. -/
def processResponse (unicode : UnicodeData) (threshold : ℚ) (rows : DocumentRows) (text : String)
    (clients : List FiscalClient) (activeClient : String → Option FiscalClient)
    (providerResponseId model : String) (value : PyObject) : ClassifiedDocument :=
  let (exact, ambiguousAlias) := exactClientMatch unicode text clients
  match validateResponse value (clients.map (·.code)) with
  | .error .overflow => markFailed rows
  | .error (.invalid message) =>
    { rows := rows.openReview, reason := some .invalidResponse, lastError := message }
  | .ok validated =>
    (applyPrediction rows threshold exact ambiguousAlias { validated, providerResponseId, model }
      (validated.clientCode.bind fun code => if code = "" then none else activeClient code)).getD
      (markFailed rows)

end Policy

end SheepContabil
