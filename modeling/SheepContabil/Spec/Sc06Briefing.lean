import SheepContabil.Spec.Run
import SheepContabil.Spec.Sc06Answers

/-!
# SC-06: the life of a briefing

The operations of `sc06/services.py` on a briefing and its run, and the save hooks of
`SocietaryBriefing` and `BriefingTemplateVersion`. An operation writes as it goes and may be refused
half way; `transaction.atomic` then takes back what it wrote. `record_run_event` writes no row of
these tables: an operation is given what it raises, if anything.
-/

namespace SheepContabil.SC06

mutual

/-- `==` of two conditions. -/
def Condition.same : Condition → Condition → Bool
  | .equals field value, .equals field' value' => field == field' && value == value'
  | .notEquals field value, .notEquals field' value' => field == field' && value == value'
  | .isIn field values, .isIn field' values' => field == field' && values == values'
  | .all conditions, .all conditions' => sameAll conditions conditions'
  | .any conditions, .any conditions' => sameAll conditions conditions'
  | _, _ => false

def sameAll : List Condition → List Condition → Bool
  | [], [] => true
  | c :: rest, c' :: rest' => c.same c' && sameAll rest rest'
  | _, _ => false

end

mutual

theorem Condition.same_iff : ∀ a b : Condition, a.same b = true ↔ a = b
  | .equals .., b => by cases b <;> simp [Condition.same]
  | .notEquals .., b => by cases b <;> simp [Condition.same]
  | .isIn .., b => by cases b <;> simp [Condition.same]
  | .all conditions, b => by cases b <;> simp [Condition.same, sameAll_iff conditions]
  | .any conditions, b => by cases b <;> simp [Condition.same, sameAll_iff conditions]

theorem sameAll_iff : ∀ a b : List Condition, sameAll a b = true ↔ a = b
  | [], b => by cases b <;> simp [sameAll]
  | c :: rest, b => by cases b <;> simp [sameAll, Condition.same_iff c, sameAll_iff rest]

end

instance : DecidableEq Condition := fun a b => decidable_of_iff _ (Condition.same_iff a b)

deriving instance DecidableEq for Question
deriving instance DecidableEq for Section
deriving instance DecidableEq for Schema

inductive VersionStatus where
  | draft | published
  deriving DecidableEq, Repr

/-- `BriefingTemplateVersion`. -/
structure TemplateVersion where
  template : Text
  version : ℕ
  schema : Schema
  status : VersionStatus := .draft
  publishedAt : Option ℕ := none
  createdBy : Option ℕ := none
  deriving DecidableEq

inductive BriefingStatus where
  | draft | completed | cancelled
  deriving DecidableEq, Repr

/-- `SocietaryBriefing`. -/
structure Briefing where
  templateVersion : ℕ
  run : RunId
  clientName : Text
  clientDocument : Text
  answers : List (QuestionId × Answer) := []
  status : BriefingStatus := .draft
  createdBy : ℕ
  completedBy : Option ℕ := none
  completedAt : Option ℕ := none
  deriving DecidableEq, Repr

/-- The columns of the run of a briefing; `answersCount`, `completedBy` and `cancelledBy` are keys of
its metadata. -/
structure BriefingRun where
  status : RunStatus
  triggeredBy : ℕ
  summary : String
  errorMessage : String := ""
  answersCount : ℕ := 0
  completedBy : Option ℕ := none
  cancelledBy : Option ℕ := none
  startedAt : ℕ
  finishedAt : Option ℕ := none
  deriving DecidableEq, Repr

/-- The tables; a row is known by its place. -/
structure Portal where
  /-- The module `SC-06` is registered. -/
  hasModule : Bool := true
  /-- The templates that are active. -/
  activeTemplates : List Text := []
  versions : List TemplateVersion := []
  runs : List BriefingRun := []
  briefings : List Briefing := []

/-- What a call raises. -/
inductive Refusal where
  | validation (message : String)
  | answers (errors : FieldErrors)
  | doesNotExist
  | publishedTemplateUnavailable
  | database
  | trace
  deriving DecidableEq, Repr

/-- An operation: what it returns or raises, and the tables as it leaves them. -/
def Operation (α : Type) : Type := Portal → Except Refusal α × Portal

namespace Operation

variable {α : Type}

instance : Monad Operation where
  pure a := fun s => (.ok a, s)
  bind x f := fun s =>
    match x s with
    | (.ok a, s') => f a s'
    | (.error e, s') => (.error e, s')

def refuse (e : Refusal) : Operation α := fun s => (.error e, s)

def get : Operation Portal := fun s => (.ok s, s)

/-- `transaction.atomic`. -/
def atomic (x : Operation α) : Operation α := fun s =>
  match x s with
  | (.ok a, s') => (.ok a, s')
  | (.error e, _) => (.error e, s)

/-- A row that must exist. -/
def row (found : Portal → Option α) : Operation α := fun s =>
  match found s with
  | some a => (.ok a, s)
  | none => (.error .doesNotExist, s)

/-- `record_run_event`. -/
def recordRunEvent (raised : Option Refusal) : Operation Unit :=
  match raised with
  | some e => refuse e
  | none => pure ()

end Operation

open Operation

section Rows

/-- The check constraint `briefing_completion_audit_consistent`. -/
def Briefing.auditConsistent (b : Briefing) : Bool :=
  match b.status with
  | .completed => b.completedAt.isSome && b.completedBy.isSome
  | _ => b.completedAt.isNone && b.completedBy.isNone

/-- `SocietaryBriefing.save`, of a row that exists. -/
def saveBriefing (id : ℕ) (b : Briefing) : Operation Unit := fun s =>
  if s.briefings[id]?.any fun previous => previous.status = .completed ∧ previous ≠ b then
    (.error (.validation "Um briefing concluído é imutável; preserve a evidência histórica."), s)
  else if b.auditConsistent then (.ok (), { s with briefings := s.briefings.set id b })
  else (.error .database, s)

def saveRun (id : RunId) (r : BriefingRun) : Operation Unit := fun s =>
  (.ok (), { s with runs := s.runs.set id r })

def createRun (r : BriefingRun) : Operation RunId := fun s =>
  (.ok s.runs.length, { s with runs := s.runs ++ [r] })

/-- `SocietaryBriefing.objects.create`; the columns hold 180 and 40 characters. -/
def createRow (b : Briefing) : Operation ℕ := fun s =>
  if b.clientName.length ≤ 180 ∧ b.clientDocument.length ≤ 40 ∧ b.auditConsistent then
    (.ok s.briefings.length, { s with briefings := s.briefings ++ [b] })
  else (.error .database, s)

/-- `_locked_briefing`. -/
def lockedBriefing (id : ℕ) : Operation Briefing := row fun s => s.briefings[id]?

/-- `_require_draft`. -/
def requireDraft (b : Briefing) : Operation Unit :=
  if b.status = .draft then pure ()
  else refuse (.validation "Somente um briefing em elaboração pode receber respostas.")

end Rows

section Services

variable (validators : Validators) (u : Unicode)

/-- `sanitize_answers(briefing.template_version.schema, …)`. -/
def sanitizedAnswers (b : Briefing) (answers : QuestionId → Option RawAnswer)
    (requireComplete : Bool) : Operation (List (QuestionId × Answer)) := do
  let version ← row fun s => s.versions[b.templateVersion]?
  if version.schema.accepted validators then
    match sanitizeAnswers validators u answers requireComplete version.schema with
    | .ok stored => pure stored
    | .error errors => refuse (.answers errors)
  else refuse (.validation "O schema do briefing é inválido.")

/-- `get_latest_published_version`: the place of the row. -/
def latestPublishedVersion (template : Text) (s : Portal) : Option ℕ :=
  let places := (List.range s.versions.length).filter fun i =>
    s.versions[i]?.any fun v => v.template = template ∧ s.activeTemplates.contains template ∧
      v.status = .published
  places.foldl (fun best i => match best with
    | some j => if (s.versions[j]?.map (·.version)).getD 0 < (s.versions[i]?.map (·.version)).getD 0 then
        some i else some j
    | none => some i) none

/-- `create_briefing`; the two events may be refused. -/
def createBriefing (clientName clientDocument : Text) (createdBy : ℕ) (template : Text) (now : ℕ)
    (created started : Option Refusal) : Operation ℕ := atomic do
  let s ← get
  match latestPublishedVersion template s with
  | none => refuse .publishedTemplateUnavailable
  | some version =>
    if s.hasModule then
      let run ← createRun
        { status := .running
          triggeredBy := createdBy
          summary := "Briefing iniciado; respostas condicionais aguardando conclusão."
          startedAt := now }
      let briefing ← createRow
        { templateVersion := version
          run := run
          clientName := strip clientName
          clientDocument := strip clientDocument
          createdBy := createdBy }
      recordRunEvent created
      recordRunEvent started
      pure briefing
    else refuse .doesNotExist

/-- `save_briefing_draft`. -/
def saveBriefingDraft (id : ℕ) (answers : QuestionId → Option RawAnswer) : Operation Unit := atomic do
  let briefing ← lockedBriefing id
  requireDraft briefing
  let sanitized ← sanitizedAnswers validators u briefing answers false
  saveBriefing id { briefing with answers := sanitized }
  let run ← row fun s => s.runs[briefing.run]?
  saveRun briefing.run
    { run with
      summary := s!"Rascunho salvo com {sanitized.length} resposta(s) aplicável(is)."
      answersCount := sanitized.length
      completedBy := briefing.completedBy }

/-- `complete_briefing`. -/
def completeBriefing (id : ℕ) (answers : QuestionId → Option RawAnswer) (completedBy now : ℕ)
    (recorded : Option Refusal) : Operation Unit := atomic do
  let briefing ← lockedBriefing id
  requireDraft briefing
  let sanitized ← sanitizedAnswers validators u briefing answers true
  saveBriefing id
    { briefing with
      answers := sanitized
      status := .completed
      completedBy := some completedBy
      completedAt := some now }
  let version ← row fun s => s.versions[briefing.templateVersion]?
  let visible := formatAnswers validators sanitized version.schema
  let run ← row fun s => s.runs[briefing.run]?
  saveRun briefing.run
    { run with
      status := .succeeded
      summary :=
        s!"Briefing concluído com {visible.length} resposta(s) aplicável(is) e validada(s)."
      errorMessage := ""
      answersCount := visible.length
      completedBy := some completedBy
      finishedAt := some now }
  recordRunEvent recorded

/-- `cancel_briefing`. -/
def cancelBriefing (id : ℕ) (cancelledBy : ℕ) (label : String) (now : ℕ)
    (recorded : Option Refusal) : Operation Unit := atomic do
  let briefing ← lockedBriefing id
  requireDraft briefing
  saveBriefing id { briefing with status := .cancelled }
  let run ← row fun s => s.runs[briefing.run]?
  saveRun briefing.run
    { run with
      status := .cancelled
      finishedAt := some now
      summary := s!"Briefing cancelado por {label} antes da conclusão."
      cancelledBy := some cancelledBy }
  recordRunEvent recorded

/-- `is_briefing_empty`. -/
def Briefing.isEmpty (b : Briefing) : Bool := b.answers.all fun x => x.2 == .text []

/-- `discard_empty_briefing`. -/
def discardEmptyBriefing (id : ℕ) (now : ℕ) (recorded : Option Refusal) : Operation Bool := atomic do
  let briefing ← lockedBriefing id
  requireDraft briefing
  if briefing.isEmpty then
    let run ← row fun s => s.runs[briefing.run]?
    saveBriefing id { briefing with status := .cancelled }
    saveRun briefing.run
      { run with
        status := .cancelled
        finishedAt := some now
        summary := "Rascunho vazio descartado antes do preenchimento." }
    recordRunEvent recorded
    pure true
  else pure false

/-- `BriefingTemplateVersion.full_clean`. -/
def TemplateVersion.fullClean (v : TemplateVersion) (place : Option ℕ) (s : Portal) : Bool :=
  v.schema.accepted validators && decide (1 ≤ v.version) &&
    (match v.status with
    | .published => v.publishedAt.isSome
    | .draft => v.publishedAt.isNone) &&
    (List.range s.versions.length).all fun i => decide (some i = place) ||
      !(s.versions[i]?.any fun other => other.template = v.template ∧ other.version = v.version)

/-- `BriefingTemplateVersion.save`, of a new row or of the row at a place. -/
def saveVersion (place : Option ℕ) (v : TemplateVersion) (now : ℕ) : Operation Unit := fun s =>
  let v := if v.status = .published ∧ v.publishedAt = none then { v with publishedAt := some now } else v
  match place.bind fun i => s.versions[i]? with
  | some previous =>
    if previous.status = .published ∧ previous ≠ v then
      (.error (.validation "Uma versão publicada é imutável; crie uma nova versão."), s)
    else if v.fullClean validators place s then
      (.ok (), { s with versions := s.versions.set (place.getD 0) v })
    else (.error (.validation "A versão é inválida."), s)
  | none =>
    if v.fullClean validators none s then (.ok (), { s with versions := s.versions ++ [v] })
    else (.error (.validation "A versão é inválida."), s)

/-- A call of the module. -/
inductive Call where
  | create (clientName clientDocument : Text) (createdBy : ℕ) (template : Text) (now : ℕ)
      (created started : Option Refusal)
  | saveDraft (id : ℕ) (answers : QuestionId → Option RawAnswer)
  | complete (id : ℕ) (answers : QuestionId → Option RawAnswer) (completedBy now : ℕ)
      (recorded : Option Refusal)
  | cancel (id : ℕ) (cancelledBy : ℕ) (label : String) (now : ℕ) (recorded : Option Refusal)
  | discardEmpty (id : ℕ) (now : ℕ) (recorded : Option Refusal)
  | saveVersion (place : Option ℕ) (version : TemplateVersion) (now : ℕ)

/-- What a call raises, if anything, and the tables after it. -/
def Call.perform : Call → Portal → Except Refusal Unit × Portal
  | .create name document user template now created started, s =>
    let (result, s') := createBriefing name document user template now created started s
    (result.map fun _ => (), s')
  | .saveDraft id answers, s => saveBriefingDraft validators u id answers s
  | .complete id answers user now recorded, s =>
    completeBriefing validators u id answers user now recorded s
  | .cancel id user label now recorded, s => cancelBriefing id user label now recorded s
  | .discardEmpty id now recorded, s =>
    let (result, s') := discardEmptyBriefing id now recorded s
    (result.map fun _ => (), s')
  | .saveVersion place version now, s => SC06.saveVersion validators place version now s

/-- The tables after some calls, successful or refused. -/
def history (s : Portal) (calls : List Call) : Portal :=
  calls.foldl (fun s call => (call.perform validators u s).2) s

end Services

end SheepContabil.SC06
