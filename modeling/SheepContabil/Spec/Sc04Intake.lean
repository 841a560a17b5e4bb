import SheepContabil.Py.Value
import SheepContabil.Spec.Run

/-!
# The ingestion of documents

`ingest_document` reads the intakes, reads the documents, puts the bytes into the
object storage, creates the document, and creates the intake with its run item in one
transaction. Each of these is a step of its own; any number of calls interleave, and a call
may end at any step, by an exception or with its process.

* `IntakeTables`: documents, intakes, run items and stored objects.
* `CheckedCall.advance`: the next step of a call, from where it is.
* `IntakeState.step`, `IntakeState.after`: a step of the system, and a history of steps.
* `AllOrNothing`: what the calls should leave.
-/

namespace SheepContabil

open Py

abbrev DocumentId := ℕ
abbrev IntakeId := ℕ

inductive DocumentSource where
  | manual | simulatedInbox
  deriving DecidableEq, Repr

/-- The two states of an intake that `ingest_document` writes. -/
inductive DocumentIntakeStatus where
  | queued | duplicate
  deriving DecidableEq, Repr

inductive DocumentRunOutcome where
  | new | duplicateSource | duplicateHash
  deriving DecidableEq, Repr

structure ValidatedDocument where
  filename : String
  mediaType : String
  extension : String
  content : List UInt8
  sha256 : String
  pageCount : Option ℕ := none
  deriving DecidableEq, Repr

structure FiscalDocument where
  sha256 : String
  storageKey : String
  mediaType : String
  byteSize : ℕ
  pageCount : Option ℕ
  deriving DecidableEq, Repr

structure DocumentIntake where
  document : DocumentId
  run : RunId
  source : DocumentSource
  sourceReference : String
  originalFilename : String
  status : DocumentIntakeStatus
  isDuplicate : Bool
  deriving DecidableEq, Repr

structure DocumentRunItem where
  run : RunId
  intake : IntakeId
  outcome : DocumentRunOutcome
  deriving DecidableEq, Repr

structure IngestionResult where
  intakeId : IntakeId
  documentId : DocumentId
  outcome : DocumentRunOutcome
  deriving DecidableEq, Repr

/-- `original_storage_key`. -/
def originalStorageKey (sha256 extension : String) : String :=
  "sc04/originals/" ++ String.ofList (sha256.toList.take 2) ++ "/" ++ sha256 ++ extension

/-- The arguments of `ingest_document`; a source that is not recognised is `none`. -/
structure IngestCall where
  run : RunId
  source : Option DocumentSource
  sourceReference : String
  validated : ValidatedDocument

/-- The arguments after their checks: the source is known and the reference is not blank. -/
structure CheckedCall where
  run : RunId
  source : DocumentSource
  reference : String
  named : reference ≠ ""
  validated : ValidatedDocument

/-- How a call ends without a result. -/
inductive IngestError where
  | unnamedSource
  | unknownSource
  | otherContent
  | interrupted
  deriving DecidableEq, Repr

/-- The text of a `ValidationError`. -/
def IngestError.message : IngestError → Option String
  | unnamedSource => some "A origem do documento precisa de um identificador estável."
  | unknownSource => some "A origem do documento não é reconhecida."
  | otherContent => some "A origem já foi associada a outro conteúdo."
  | interrupted => none

/-- The checks at the head of `ingest_document`. -/
def IngestCall.check (c : IngestCall) : Except IngestError CheckedCall :=
  if named : strip c.sourceReference = "" then .error .unnamedSource
  else match c.source with
    | none => .error .unknownSource
    | some source => .ok
      { run := c.run, source, reference := strip c.sourceReference, named, validated := c.validated }

/-- The next step of a call: the read of the intakes, the read of the documents, the storage, the
creation of the document, the update of its pages, the transaction of the intake, the handler of
its `IntegrityError`, and the run item of an intake that exists. -/
inductive IngestPhase where
  | findIntake
  | findDocument
  | put
  | createDocument
  | updatePages (d : DocumentId)
  | createIntake (d : DocumentId) (isDuplicate : Bool)
  | resolveConflict
  | adopt (k : IntakeId)
  deriving DecidableEq, Repr

inductive IngestProcess where
  | running (c : CheckedCall) (phase : IngestPhase)
  | ended (result : Except IngestError IngestionResult)

/-- A row is known by its position. -/
structure IntakeTables where
  documents : List FiscalDocument := []
  intakes : List DocumentIntake := []
  items : List DocumentRunItem := []
  objects : List (String × List UInt8) := []

namespace IntakeTables

/-- `DocumentIntake.objects.filter(source=..., source_reference=...).first()`. -/
def intakeFor (s : IntakeTables) (source : DocumentSource) (reference : String) : Option IntakeId :=
  s.intakes.findIdx? fun k => k.source == source && k.sourceReference == reference

/-- `FiscalDocument.objects.filter(sha256=...).first()`. -/
def documentFor (s : IntakeTables) (sha256 : String) : Option DocumentId :=
  s.documents.findIdx? fun d => d.sha256 == sha256

/-- `intake.document.sha256 == validated.sha256`. -/
def hasContent (s : IntakeTables) (k : IntakeId) (sha256 : String) : Bool :=
  match s.intakes[k]? with
  | none => false
  | some intake => (s.documents[intake.document]?).any fun d => d.sha256 == sha256

/-- `DocumentRunItem.objects.get_or_create(run=..., intake=...)`. -/
def adoptIntake (s : IntakeTables) (run : RunId) (k : IntakeId) : IntakeTables :=
  if s.items.any fun item => item.run == run && item.intake == k then s
  else { s with items := s.items ++ [⟨run, k, .duplicateSource⟩] }

/-- The document of an intake. -/
def documentOf (s : IntakeTables) (k : IntakeId) : DocumentId :=
  (s.intakes[k]?).elim 0 (·.document)

end IntakeTables

namespace CheckedCall

/-- The row that a call creates for its content. -/
def newDocument (c : CheckedCall) : FiscalDocument where
  sha256 := c.validated.sha256
  storageKey := originalStorageKey c.validated.sha256 c.validated.extension
  mediaType := c.validated.mediaType
  byteSize := c.validated.content.length
  pageCount := c.validated.pageCount

/-- The row of its intake. -/
def newIntake (c : CheckedCall) (d : DocumentId) (isDuplicate : Bool) : DocumentIntake where
  document := d
  run := c.run
  source := c.source
  sourceReference := c.reference
  originalFilename := c.validated.filename
  status := if isDuplicate then .duplicate else .queued
  isDuplicate := isDuplicate

/-- The outcome of its run item. -/
def outcome (isDuplicate : Bool) : DocumentRunOutcome :=
  if isDuplicate then .duplicateHash else .new

/-- An intake of the same source is adopted when its content is the same. -/
def adoptOrRefuse (c : CheckedCall) (s : IntakeTables) (k : IntakeId) : IngestProcess :=
  if s.hasContent k c.validated.sha256 then .running c (.adopt k) else .ended (.error .otherContent)

/-- What `ingest_document` does next, and where it is afterwards. -/
def advance (c : CheckedCall) (s : IntakeTables) : IngestPhase → IntakeTables × IngestProcess
  | .findIntake =>
    match s.intakeFor c.source c.reference with
    | some k => (s, c.adoptOrRefuse s k)
    | none => (s, .running c .findDocument)
  | .findDocument =>
    match s.documentFor c.validated.sha256 with
    | none => (s, .running c .put)
    | some d =>
      if (s.documents[d]?).any (·.pageCount.isNone) && c.validated.pageCount.isSome then
        (s, .running c (.updatePages d))
      else (s, .running c (.createIntake d true))
  | .put =>
    ({ s with objects := s.objects ++ [(c.newDocument.storageKey, c.validated.content)] },
      .running c .createDocument)
  | .createDocument =>
    -- `get_or_create`: the row of a call that was faster is taken
    match s.documentFor c.validated.sha256 with
    | some d => (s, .running c (.createIntake d true))
    | none =>
      ({ s with documents := s.documents ++ [c.newDocument] },
        .running c (.createIntake s.documents.length false))
  | .updatePages d =>
    ({ s with documents := s.documents.modify d ({ · with pageCount := c.validated.pageCount }) },
      .running c (.createIntake d true))
  | .createIntake d isDuplicate =>
    -- `uniq_sc04_source_reference`
    if (s.intakeFor c.source c.reference).isSome then (s, .running c .resolveConflict)
    else
      ({ s with
          intakes := s.intakes ++ [c.newIntake d isDuplicate]
          items := s.items ++ [⟨c.run, s.intakes.length, outcome isDuplicate⟩] },
        .ended (.ok ⟨s.intakes.length, d, outcome isDuplicate⟩))
  | .resolveConflict =>
    match s.intakeFor c.source c.reference with
    | none => (s, .ended (.error .interrupted))
    | some k => (s, c.adoptOrRefuse s k)
  | .adopt k => (s.adoptIntake c.run k, .ended (.ok ⟨k, s.documentOf k, .duplicateSource⟩))

end CheckedCall

structure IntakeState where
  tables : IntakeTables := {}
  processes : List IngestProcess := []

inductive IntakeStep where
  /-- A program calls `ingest_document`. -/
  | start (c : IngestCall)
  /-- A call takes its next step. -/
  | advance (i : ℕ)
  /-- The next step of a call raises, or its process dies. -/
  | interrupt (i : ℕ)

namespace IntakeState

def step (s : IntakeState) : IntakeStep → IntakeState
  | .start c =>
    match c.check with
    | .error e => { s with processes := s.processes ++ [.ended (.error e)] }
    | .ok c => { s with processes := s.processes ++ [.running c .findIntake] }
  | .advance i =>
    match s.processes[i]? with
    | some (.running c phase) =>
      { tables := (c.advance s.tables phase).1
        processes := s.processes.set i (c.advance s.tables phase).2 }
    | _ => s
  | .interrupt i =>
    match s.processes[i]? with
    | some (.running _ _) =>
      { s with processes := s.processes.set i (.ended (.error .interrupted)) }
    | _ => s

/-- The state after the steps. -/
def after (s : IntakeState) (xs : List IntakeStep) : IntakeState := xs.foldl step s

/-- Some run has taken the document in for processing. -/
def TakenIn (s : IntakeState) (d : DocumentId) : Prop :=
  ∃ item ∈ s.tables.items, item.outcome = .new ∧
    ∃ intake, s.tables.intakes[item.intake]? = some intake ∧ intake.document = d

/-- No call is in progress. -/
def Quiet (s : IntakeState) : Prop := ∀ p ∈ s.processes, ∃ r, p = .ended r

/-- Every document was taken in, and so was the content of every hash duplicate. -/
def AllOrNothing (s : IntakeState) : Prop :=
  s.Quiet → (∀ d < s.tables.documents.length, s.TakenIn d) ∧
    ∀ item ∈ s.tables.items, item.outcome = .duplicateHash →
      ∃ intake, s.tables.intakes[item.intake]? = some intake ∧ s.TakenIn intake.document

/-- A step loses a document: the call that has created it is interrupted before its intake, or
finds that another call has taken its source and reference. -/
def loses (s : IntakeState) : IntakeStep → Bool
  | .start _ => false
  | .advance i =>
    match s.processes[i]? with
    | some (.running c (.createIntake _ false)) => (s.tables.intakeFor c.source c.reference).isSome
    | _ => false
  | .interrupt i =>
    match s.processes[i]? with
    | some (.running _ (.createIntake _ false)) => true
    | _ => false

/-- No step of the history loses a document. -/
def LosesNothing : IntakeState → List IntakeStep → Prop
  | _, [] => True
  | s, x :: xs => s.loses x = false ∧ LosesNothing (s.step x) xs

end IntakeState

end SheepContabil
