import SheepContabil.Spec.Sc06Briefing

/-!
# SC-06: `cleanup_empty_briefings`

The command reads the drafts once, newest first, and discards in turn those it has read as empty,
each in a transaction of its own. Others go on calling the module in between. It takes no notice of
what `discard_empty_briefing` returns.
-/

namespace SheepContabil.SC06

/-- What comes before the turn of a draft that was read as empty, and its turn. -/
structure Turn where
  /-- The calls of others since the turn before. -/
  meanwhile : List Call := []
  now : ℕ := 0
  /-- What the event of the cancellation raises. -/
  recorded : Option Refusal := none

/-- A line that the command prints. -/
inductive Line where
  | cancelled (id : ℕ) (clientName : Text)
  | wouldCancel (id : ℕ) (clientName : Text)
  | noneFound
  | wouldCancelTotal (emptyCount : ℕ)
  | cancelledTotal (emptyCount : ℕ)
  deriving DecidableEq, Repr

/-- What the command leaves and prints, and its count or what it raises. -/
structure Outcome where
  tables : Portal
  lines : List Line
  result : Except Refusal ℕ

/-- `SocietaryBriefing.objects.filter(status=DRAFT)`, newest first. -/
def Portal.drafts (s : Portal) : List (ℕ × Briefing) :=
  (List.range s.briefings.length).reverse.filterMap fun id =>
    (s.briefings[id]?).bind fun b => if b.status = .draft then some (id, b) else none

section Command

variable (validators : Validators) (u : Unicode) (dryRun : Bool) (turn : ℕ → Turn)

/-- The loop of `handle`, on the drafts as they were read. -/
def handleDrafts : List (ℕ × Briefing) → ℕ → Portal → Outcome
  | [], emptyCount, s => { tables := s, lines := [], result := .ok emptyCount }
  | (id, briefing) :: rest, emptyCount, s =>
    if briefing.isEmpty then
      let s := history validators u s (turn id).meanwhile
      if dryRun then
        let o := handleDrafts rest (emptyCount + 1) s
        { o with lines := .wouldCancel id briefing.clientName :: o.lines }
      else
        match discardEmptyBriefing id (turn id).now (turn id).recorded s with
        | (.error e, s) => { tables := s, lines := [], result := .error e }
        | (.ok _, s) =>
          let o := handleDrafts rest (emptyCount + 1) s
          { o with lines := .cancelled id briefing.clientName :: o.lines }
    else handleDrafts rest emptyCount s

/-- The drafts that have had their turn, each with the tables at the end of the turn before. -/
def turnStates : List (ℕ × Briefing) → Portal → List (ℕ × Portal)
  | [], _ => []
  | (id, briefing) :: rest, s =>
    if briefing.isEmpty then
      let s' := history validators u s (turn id).meanwhile
      (id, s) ::
        if dryRun then turnStates rest s'
        else
          match discardEmptyBriefing id (turn id).now (turn id).recorded s' with
          | (.error _, _) => []
          | (.ok _, s') => turnStates rest s'
    else turnStates rest s

/-- Some calls, each with the tables it meets. -/
def met : Portal → List Call → List (Call × Portal)
  | _, [] => []
  | s, call :: rest => (call, s) :: met (call.perform validators u s).2 rest

/-- The calls of others while the loop runs, each with the tables it meets. -/
def metMeanwhile (rows : List (ℕ × Briefing)) (s : Portal) : List (Call × Portal) :=
  (turnStates validators u dryRun turn rows s).flatMap fun p =>
    met validators u p.2 (turn p.1).meanwhile

/-- `Command.handle`. -/
def handle (s : Portal) : Outcome :=
  let o := handleDrafts validators u dryRun turn s.drafts 0 s
  match o.result with
  | .error _ => o
  | .ok emptyCount =>
    { o with
      lines := o.lines ++
        [if emptyCount = 0 then .noneFound
        else if dryRun then .wouldCancelTotal emptyCount
        else .cancelledTotal emptyCount] }

end Command

end SheepContabil.SC06
