import SheepContabil.Spec.Sc06Answers
import SheepContabil.Proof.Sc06Readings

/-!
# SC-06: what the server makes of the answers

`sanitize_answers` reads a blank answer as missing before it strips it, and `get_active_sections`
does not. A text of spaces is therefore stored as the empty text, and the empty text is an answer
for one path and no answer for the other.

* `sanitize_shown`: the walk of `sanitize_answers`, as a fold over the questions it shows.
* `sanitize_hidden`: the answers of hidden questions do not count.
* `sanitize_again_iff`: the result is a fixed point unless an active answer is only spaces.
* `complete_iff`: a required question has an answer unless it is only spaces.
* `active_eq_iff`: the two paths show the same until a condition tells the empty text from a missing
  answer.
-/

namespace SheepContabil.SC06

section Strip

theorem strip_nil : strip [] = [] := rfl

theorem strip_head {t : Text} (h : strip t ≠ []) : ∃ c rest, strip t = c :: rest ∧ Py.isSpace c = false := by
  obtain ⟨c, rest, hcons⟩ := List.exists_cons_of_ne_nil h
  refine ⟨c, rest, hcons, ?_⟩
  obtain ⟨tail, hprefix⟩ := List.rdropWhile_prefix Py.isSpace (t.dropWhile Py.isSpace)
  have hdrop : t.dropWhile Py.isSpace = c :: (rest ++ tail) := by
    rw [← hprefix, ← Py.stripOf, ← strip, hcons, List.cons_append]
  have hhead := List.head?_dropWhile_not Py.isSpace t
  rw [hdrop] at hhead
  simpa using hhead

/-- A stripped text has no space around it. -/
theorem strip_strip (t : Text) : strip (strip t) = strip t := by
  by_cases h : strip t = []
  · rw [h, strip_nil]
  · obtain ⟨c, rest, hcons, hc⟩ := strip_head h
    have hdrop : (strip t).dropWhile Py.isSpace = strip t := by
      rw [hcons, List.dropWhile_cons, if_neg (by simp [hc])]
    have hidem : (strip t).rdropWhile Py.isSpace = strip t := List.rdropWhile_idempotent _ _
    rw [strip, Py.stripOf, hdrop, hidem]

end Strip

section Coerce

variable {validators : Validators} {q : Question} {raw : RawAnswer} {v : Answer}

theorem coerce_boolean (htype : q.type = .boolean) (h : coerceAnswer validators q raw = .ok v) :
    ∃ b, v = .bool b := by
  unfold coerceAnswer at h
  rw [if_pos htype] at h
  split at h
  · exact ⟨_, (Except.ok.inj h).symm⟩
  · split at h
    · exact ⟨_, (Except.ok.inj h).symm⟩
    · split at h
      · exact ⟨_, (Except.ok.inj h).symm⟩
      · cases h
  · split at h
    · exact ⟨_, (Except.ok.inj h).symm⟩
    · split at h
      · exact ⟨_, (Except.ok.inj h).symm⟩
      · cases h
  · cases h

theorem coerce_text (htype : q.type ≠ .boolean) (h : coerceAnswer validators q raw = .ok v) :
    ∃ t, raw = .text t ∧ v = .text (strip t) ∧ q.textError? validators (strip t) = none := by
  unfold coerceAnswer at h
  rw [if_neg htype] at h
  cases raw with
  | text t =>
    dsimp only at h
    split at h
    · cases h
    · next herror => exact ⟨t, rfl, (Except.ok.inj h).symm, herror⟩
  | _ => cases h

/-- **A normalised answer is a fixed point.** -/
theorem coerce_stored (h : coerceAnswer validators q raw = .ok v) :
    coerceAnswer validators q v.raw = .ok v := by
  by_cases htype : q.type = .boolean
  · obtain ⟨b, rfl⟩ := coerce_boolean htype h
    unfold coerceAnswer
    rw [if_pos htype]
    rfl
  · obtain ⟨t, rfl, rfl, herror⟩ := coerce_text htype h
    unfold coerceAnswer
    rw [if_neg htype]
    simp only [Answer.raw]
    rw [strip_strip, herror]

/-- A raw text that is not empty and has only spaces. -/
def RawAnswer.onlySpaces : RawAnswer → Bool
  | .text t => t != [] && strip t == []
  | _ => false

/-- Only a text without a word is stored as the empty text. -/
theorem coerce_empty (h : coerceAnswer validators q raw = .ok (.text [])) :
    ∃ t, raw = .text t ∧ strip t = [] := by
  by_cases htype : q.type = .boolean
  · obtain ⟨b, hb⟩ := coerce_boolean htype h
    cases hb
  · obtain ⟨t, rfl, hv, -⟩ := coerce_text htype h
    exact ⟨t, rfl, (Answer.text.inj hv).symm⟩

/-- A text without a word is not a boolean. -/
theorem coerce_boolean_blank (htype : q.type = .boolean) {t : Text} (hblank : strip t = []) :
    coerceAnswer validators q (.text t) = .error "Informe Sim ou Não." := by
  unfold coerceAnswer
  rw [if_pos htype]
  simp only [hblank]
  rfl

/-- A text without a word is stored as the empty text. -/
theorem coerce_onlySpaces (hspaces : raw.onlySpaces = true)
    (h : coerceAnswer validators q raw = .ok v) : v = .text [] := by
  cases raw with
  | text t =>
    simp only [RawAnswer.onlySpaces, Bool.and_eq_true, bne_iff_ne, beq_iff_eq] at hspaces
    by_cases htype : q.type = .boolean
    · rw [coerce_boolean_blank htype hspaces.2] at h
      cases h
    · obtain ⟨t', ht, hv, -⟩ := coerce_text htype h
      cases ht
      rw [hv, hspaces.2]
  | _ => simp [RawAnswer.onlySpaces] at hspaces

theorem isEmpty_raw (v : Answer) : v.raw.isEmpty = true ↔ v = .text [] := by
  cases v with
  | bool b => simp [Answer.raw, RawAnswer.isEmpty]
  | text t =>
    cases t with
    | nil => simp [Answer.raw, RawAnswer.isEmpty]
    | cons c rest => simp [Answer.raw, RawAnswer.isEmpty]

end Coerce

section Sanitized

variable (validators : Validators) (answers : QuestionId → Option RawAnswer) (requireComplete : Bool)

/-- What `sanitize_answers` stores of an active question. -/
def keptAnswer (q : Question) : Option Answer :=
  (answers q.id).bind fun raw =>
    if raw.isEmpty then none else (coerceAnswer validators q raw).toOption

/-- What `sanitize_answers` says of an active question. -/
def answerError? (q : Question) : Option String :=
  let missing := if requireComplete && q.required then some "Este campo é obrigatório." else none
  match answers q.id with
  | some raw =>
    if raw.isEmpty then missing
    else match coerceAnswer validators q raw with
      | .ok _ => none
      | .error message => some message
  | none => missing

theorem Sanitation.answer_eq (w : Sanitation) (q : Question) :
    w.answer validators answers requireComplete q =
      { sanitized := w.sanitized ++ entry q (keptAnswer validators answers q)
        errors := w.errors ++
          (answerError? validators answers requireComplete q).toList.map fun message => (q.id, message)
        active := w.active ++ [q.id] } := by
  unfold Sanitation.answer keptAnswer answerError? entry
  cases hraw : answers q.id with
  | none =>
    simp only [Sanitation.answer.missing]
    split <;> simp
  | some raw =>
    simp only [Option.bind_some]
    split
    · simp only [Sanitation.answer.missing]
      split <;> simp
    · cases coerceAnswer validators q raw with
      | ok value => simp [Except.toOption]
      | error message => simp [Except.toOption]

/-- An active question of the walk of `sanitize_answers`. -/
def putAnswer (w : Sanitation) (p : Placed) : Sanitation :=
  w.answer validators answers requireComplete p.question

variable {validators answers requireComplete} in
theorem sanitized_putAnswer (w : Sanitation) (p : Placed) :
    (putAnswer validators answers requireComplete w p).sanitized =
      w.sanitized ++ entry p.question (keptAnswer validators answers p.question) := by
  rw [putAnswer, Sanitation.answer_eq]

/-- The questions that `sanitize_answers` shows. -/
abbrev sanitizeShown (schema : Schema) : List Placed := shown (keptAnswer validators answers) schema

variable {validators} {schema : Schema}

/-- **The walk of `sanitize_answers` is a fold over the questions it shows.** -/
theorem sanitize_shown (h : schema.accepted validators = true) :
    sanitize validators answers requireComplete schema =
      { sanitized := answersOf (keptAnswer validators answers) (sanitizeShown validators answers schema)
        errors := (sanitizeShown validators answers schema).flatMap fun p =>
          (answerError? validators answers requireComplete p.question).toList.map
            fun message => (p.question.id, message)
        active := (sanitizeShown validators answers schema).map (·.question.id) } := by
  have hfold : sanitize validators answers requireComplete schema =
      (sanitizeShown validators answers schema).foldl
        (putAnswer validators answers requireComplete) {} :=
    sections_foldl sanitized_putAnswer rfl h
  rw [hfold]
  generalize sanitizeShown validators answers schema = placed
  induction placed using List.reverseRecOn with
  | nil => rfl
  | append_singleton placed p ih =>
    rw [List.foldl_append, List.foldl_cons, List.foldl_nil, ih, putAnswer, Sanitation.answer_eq,
      answersOf_append]
    simp [answersOf]

variable {answers requireComplete} {u : Unicode}

theorem sanitized_eq (h : schema.accepted validators = true) :
    (sanitize validators answers requireComplete schema).sanitized =
      answersOf (keptAnswer validators answers) (sanitizeShown validators answers schema) := by
  rw [sanitize_shown answers requireComplete h]

theorem active_eq (h : schema.accepted validators = true) :
    activeQuestions validators answers requireComplete schema =
      (sanitizeShown validators answers schema).map (·.question.id) := by
  rw [activeQuestions, sanitize_shown answers requireComplete h]

theorem addError_ne_nil (field : QuestionId) (message : String) (errors : FieldErrors) :
    addError field message errors ≠ [] := by
  cases errors with
  | nil => simp [addError]
  | cons e rest => obtain ⟨f, messages⟩ := e; simp only [addError]; split <;> simp

/-- The married partner that an accepted completion lacks. -/
def unmatchedPartner (u : Unicode) (requireComplete : Bool) (stored : List (QuestionId × Answer)) :
    Option Text :=
  if requireComplete then undeclaredPartner u stored else none

theorem allErrors_nil {w : Sanitation} :
    w.allErrors u requireComplete = [] ↔
      w.errors = [] ∧ unmatchedPartner u requireComplete w.sanitized = none := by
  unfold Sanitation.allErrors unmatchedPartner
  cases hpartner : if requireComplete = true then undeclaredPartner u w.sanitized else none with
  | none => simp
  | some married => simp [addError_ne_nil]

/-- **When `sanitize_answers` accepts, and what it returns.** -/
theorem sanitizeAnswers_ok {stored : List (QuestionId × Answer)} (h : schema.accepted validators = true) :
    sanitizeAnswers validators u answers requireComplete schema = .ok stored ↔
      stored = answersOf (keptAnswer validators answers) (sanitizeShown validators answers schema) ∧
      (∀ p ∈ sanitizeShown validators answers schema,
        answerError? validators answers requireComplete p.question = none) ∧
      unmatchedPartner u requireComplete stored = none := by
  have herrors : (sanitize validators answers requireComplete schema).errors = [] ↔
      ∀ p ∈ sanitizeShown validators answers schema,
        answerError? validators answers requireComplete p.question = none := by
    rw [sanitize_shown answers requireComplete h]
    simp only [List.flatMap_eq_nil_iff, List.map_eq_nil_iff, Option.toList_eq_nil_iff]
  unfold sanitizeAnswers
  dsimp only
  split
  · next hnil =>
    obtain ⟨hwalk, hpartner⟩ := allErrors_nil.mp hnil
    rw [sanitized_eq h] at hpartner ⊢
    rw [Except.ok.injEq]
    constructor
    · rintro rfl
      exact ⟨rfl, herrors.mp hwalk, hpartner⟩
    · rintro ⟨rfl, -, -⟩
      rfl
  · next hne =>
    constructor
    · intro herr
      cases herr
    · rintro ⟨rfl, hnone, hpartner⟩
      have hwalk : (sanitize validators answers requireComplete schema).sanitized = _ := sanitized_eq h
      rw [← hwalk] at hpartner
      exact absurd (allErrors_nil.mpr ⟨herrors.mpr hnone, hpartner⟩) hne

end Sanitized

section Hidden

variable {validators : Validators} {schema : Schema} {answers answers' : QuestionId → Option RawAnswer}

/-- A shown question is active. -/
theorem active_of_shown (h : schema.accepted validators = true) (requireComplete : Bool) {p : Placed}
    (hp : p ∈ sanitizeShown validators answers schema) :
    p.question.id ∈ activeQuestions validators answers requireComplete schema := by
  rw [active_eq h]
  exact List.mem_map_of_mem hp

/-- **The answers of hidden questions and of unknown keys do not count**: two raw maps that agree on
what is active under the first give the same answers or the same errors. -/
theorem sanitize_hidden (validators : Validators) (u : Unicode) (requireComplete : Bool)
    (schema : Schema) (answers answers' : QuestionId → Option RawAnswer)
    (haccepted : schema.accepted validators = true)
    (hagree : ∀ i ∈ activeQuestions validators answers requireComplete schema,
      answers i = answers' i) :
    sanitizeAnswers validators u answers requireComplete schema =
      sanitizeAnswers validators u answers' requireComplete schema := by
  have hsame : ∀ p ∈ sanitizeShown validators answers schema,
      answers p.question.id = answers' p.question.id := fun p hp =>
    hagree _ (active_of_shown haccepted requireComplete hp)
  have hkept : ∀ p ∈ sanitizeShown validators answers schema,
      keptAnswer validators answers p.question = keptAnswer validators answers' p.question := by
    intro p hp
    unfold keptAnswer
    rw [hsame p hp]
  have herror : ∀ p ∈ sanitizeShown validators answers schema,
      answerError? validators answers requireComplete p.question =
        answerError? validators answers' requireComplete p.question := by
    intro p hp
    unfold answerError?
    rw [hsame p hp]
  -- the same answers show the same questions
  have hshown : sanitizeShown validators answers' schema = sanitizeShown validators answers schema :=
    shown_congr haccepted hkept
  have hwalk : sanitize validators answers requireComplete schema =
      sanitize validators answers' requireComplete schema := by
    rw [sanitize_shown answers requireComplete haccepted,
      sanitize_shown answers' requireComplete haccepted, hshown, answersOf_congr hkept]
    congr 1
    rw [List.flatMap_def, List.flatMap_def, List.map_congr_left fun p hp => by rw [herror p hp]]
  unfold sanitizeAnswers
  rw [hwalk]

end Hidden

section Again

variable {validators : Validators} {u : Unicode} {schema : Schema} {requireComplete : Bool}
  {answers : QuestionId → Option RawAnswer} {stored : List (QuestionId × Answer)}

/-- The stored answer of a question that is shown is the one it gave. -/
theorem stored_lookup (h : schema.accepted validators = true) {p : Placed}
    (hp : p ∈ sanitizeShown validators answers schema) :
    (answersOf (keptAnswer validators answers) (sanitizeShown validators answers schema)).lookup
      p.question.id = keptAnswer validators answers p.question :=
  answersOf_lookup (shown_nodup h) hp

theorem kept_coerced {q : Question} {v : Answer} (h : keptAnswer validators answers q = some v) :
    ∃ raw, answers q.id = some raw ∧ raw.isEmpty = false ∧ coerceAnswer validators q raw = .ok v := by
  unfold keptAnswer at h
  cases hraw : answers q.id with
  | none => simp [hraw] at h
  | some raw =>
    rw [hraw, Option.bind_some] at h
    cases hempty : raw.isEmpty with
    | true => simp [hempty] at h
    | false =>
      refine ⟨raw, rfl, hempty, ?_⟩
      cases hcoerce : coerceAnswer validators q raw with
      | error message => simp [hempty, hcoerce, Except.toOption] at h
      | ok value => simpa [hempty, hcoerce, Except.toOption] using h

/-- A question without an error is answered or blank. -/
theorem kept_or_blank {q : Question} (h : answerError? validators answers requireComplete q = none) :
    (∃ v, keptAnswer validators answers q = some v) ∨
      keptAnswer validators answers q = none ∧ (requireComplete && q.required) = false := by
  unfold answerError? at h
  unfold keptAnswer
  cases hraw : answers q.id with
  | none => rw [hraw] at h; right; simpa using h
  | some raw =>
    rw [hraw] at h
    rw [Option.bind_some]
    cases hempty : raw.isEmpty with
    | true => right; simpa [hempty] using h
    | false =>
      left
      cases hcoerce : coerceAnswer validators q raw with
      | ok value => exact ⟨value, by simp [Except.toOption]⟩
      | error message => simp [hempty, hcoerce] at h

/-- The active answer that is stored as the empty text. -/
theorem kept_onlySpaces {q : Question} {raw : RawAnswer} (hraw : answers q.id = some raw)
    (hspaces : raw.onlySpaces = true)
    (h : answerError? validators answers requireComplete q = none) :
    keptAnswer validators answers q = some (.text []) := by
  have hempty : raw.isEmpty = false := by
    cases raw with
    | text t =>
      cases t with
      | nil => simp [RawAnswer.onlySpaces] at hspaces
      | cons c rest => rfl
    | _ => simp [RawAnswer.onlySpaces] at hspaces
  unfold answerError? at h
  unfold keptAnswer
  rw [hraw] at h ⊢
  rw [Option.bind_some]
  cases hcoerce : coerceAnswer validators q raw with
  | ok value => simp [hempty, Except.toOption, coerce_onlySpaces hspaces hcoerce]
  | error message => simp [hempty, hcoerce] at h

theorem onlySpaces_of_kept {q : Question} (h : keptAnswer validators answers q = some (.text [])) :
    ∃ raw, answers q.id = some raw ∧ raw.onlySpaces = true := by
  obtain ⟨raw, hraw, hempty, hcoerce⟩ := kept_coerced h
  obtain ⟨t, rfl, hstrip⟩ := coerce_empty hcoerce
  refine ⟨_, hraw, ?_⟩
  have hne : t ≠ [] := by
    rintro rfl
    simp [RawAnswer.isEmpty] at hempty
  simp [RawAnswer.onlySpaces, hne, hstrip]

/-- No active answer is a text that has only spaces. -/
def NoSpaces (validators : Validators) (answers : QuestionId → Option RawAnswer)
    (requireComplete : Bool) (schema : Schema) : Prop :=
  ∀ q ∈ schema.questions, q.id ∈ activeQuestions validators answers requireComplete schema →
    ∀ raw, answers q.id = some raw → raw.onlySpaces = false

/-- The active questions, one by one. -/
theorem active_shown (h : schema.accepted validators = true) {q : Question}
    (hq : q ∈ schema.questions)
    (hactive : q.id ∈ activeQuestions validators answers requireComplete schema) :
    ∃ p ∈ sanitizeShown validators answers schema, p.question = q := by
  rw [active_eq h] at hactive
  obtain ⟨p, hp, hid⟩ := List.mem_map.mp hactive
  exact ⟨p, hp, List.inj_on_of_nodup_map (Schema.accepted_nodup h)
    (placed_question (shown_placed h hp)) hq hid⟩

/-- A stored answer is read back as it is, unless it is the empty text. -/
theorem kept_again (h : schema.accepted validators = true)
    (hstored : stored = answersOf (keptAnswer validators answers)
      (sanitizeShown validators answers schema)) {p : Placed}
    (hp : p ∈ sanitizeShown validators answers schema)
    (hspaces : keptAnswer validators answers p.question ≠ some (.text [])) :
    keptAnswer validators (storedAnswers stored) p.question =
      keptAnswer validators answers p.question := by
  have hraw : storedAnswers stored p.question.id =
      (keptAnswer validators answers p.question).map Answer.raw := by
    rw [storedAnswers, hstored, stored_lookup h hp]
  cases hkept : keptAnswer validators answers p.question with
  | none =>
    rw [hkept, Option.map_none] at hraw
    rw [keptAnswer, hraw]
    rfl
  | some v =>
    obtain ⟨raw, -, -, hcoerce⟩ := kept_coerced hkept
    have hempty : v.raw.isEmpty = false := by
      rw [Bool.eq_false_iff]
      intro hblank
      exact hspaces (hkept.trans (congrArg some ((isEmpty_raw v).mp hblank)))
    rw [keptAnswer, hraw, hkept, Option.map_some, Option.bind_some, if_neg (by simp [hempty]),
      coerce_stored hcoerce]
    rfl

/-- **The stored answers are a fixed point of `sanitize_answers` exactly when no active answer is a
text of spaces.** -/
theorem sanitize_again_iff (validators : Validators) (u : Unicode) (requireComplete : Bool)
    (schema : Schema) (answers : QuestionId → Option RawAnswer) (stored : List (QuestionId × Answer))
    (haccepted : schema.accepted validators = true)
    (hok : sanitizeAnswers validators u answers requireComplete schema = .ok stored) :
    sanitizeAnswers validators u (storedAnswers stored) requireComplete schema = .ok stored ↔
      NoSpaces validators answers requireComplete schema := by
  obtain ⟨hstored, herrors, hpartner⟩ := (sanitizeAnswers_ok haccepted).mp hok
  constructor
  · intro hagain q hq hactive raw hraw
    obtain ⟨hsame, -, -⟩ := (sanitizeAnswers_ok haccepted).mp hagain
    obtain ⟨p, hp, rfl⟩ := active_shown haccepted hq hactive
    rw [Bool.eq_false_iff]
    intro hspaces
    -- the empty text is stored, and the second pass reads it as missing
    have hkept := kept_onlySpaces hraw hspaces (herrors p hp)
    have hempty : stored.lookup p.question.id = some (.text []) := by
      rw [hstored, stored_lookup haccepted hp, hkept]
    have hmem : (p.question.id, Answer.text []) ∈ stored := by
      rw [hstored]
      exact mem_answersOf.mpr ⟨p, hp, rfl, hkept⟩
    rw [hsame] at hmem
    obtain ⟨p', -, hid, hkept'⟩ := mem_answersOf.mp hmem
    obtain ⟨raw', hraw', hblank, -⟩ := kept_coerced hkept'
    rw [storedAnswers, show p'.question.id = p.question.id from hid, hempty] at hraw'
    have hraw'' : RawAnswer.text [] = raw' := by simpa [Answer.raw] using hraw'
    rw [← hraw''] at hblank
    simp [RawAnswer.isEmpty] at hblank
  · intro hspaces
    -- without the empty text the second pass keeps what the first one stored
    have hnot : ∀ p ∈ sanitizeShown validators answers schema,
        keptAnswer validators answers p.question ≠ some (.text []) := by
      intro p hp hkept
      obtain ⟨raw, hraw, honly⟩ := onlySpaces_of_kept hkept
      have hnone := hspaces p.question (placed_question (shown_placed haccepted hp))
        (active_of_shown haccepted requireComplete hp) raw hraw
      rw [hnone] at honly
      cases honly
    have hkept : ∀ p ∈ sanitizeShown validators answers schema,
        keptAnswer validators answers p.question =
          keptAnswer validators (storedAnswers stored) p.question := fun p hp =>
      (kept_again haccepted hstored hp (hnot p hp)).symm
    have hshown : sanitizeShown validators (storedAnswers stored) schema =
        sanitizeShown validators answers schema := shown_congr haccepted hkept
    refine (sanitizeAnswers_ok haccepted).mpr ⟨?_, ?_, hpartner⟩
    · rw [hshown, ← answersOf_congr hkept]
      exact hstored
    · intro p hp
      rw [hshown] at hp
      have hraw : storedAnswers stored p.question.id =
          (keptAnswer validators answers p.question).map Answer.raw := by
        rw [storedAnswers, hstored, stored_lookup haccepted hp]
      unfold answerError?
      rw [hraw]
      rcases kept_or_blank (herrors p hp) with ⟨v, hv⟩ | ⟨hnone, hoptional⟩
      · obtain ⟨raw, -, -, hcoerce⟩ := kept_coerced hv
        have hpresent : v.raw.isEmpty = false := by
          rw [Bool.eq_false_iff]
          intro hblank
          exact hnot p hp (hv.trans (congrArg some ((isEmpty_raw v).mp hblank)))
        rw [hv, Option.map_some]
        dsimp only
        rw [if_neg (by simp [hpresent]), coerce_stored hcoerce]
      · rw [hnone, Option.map_none]
        simp [hoptional]

end Again

section Complete

variable {validators : Validators} {schema : Schema} {answers : QuestionId → Option RawAnswer}
  {stored : List (QuestionId × Answer)}

theorem ActiveQuestions.question_eq (w : ActiveQuestions) (q : Question) :
    w.question validators answers q =
      if q.visibleWhen.all (evaluateCondition w.effective) then
        { effective := w.effective ++ entry q (effectiveAnswer validators answers q)
          questions := w.questions ++ [q] }
      else w := by
  unfold ActiveQuestions.question entry
  cases effectiveAnswer validators answers q <;> simp

/-- `effective_answers` and the active questions so far, with their sections. -/
structure ActivePlaced where
  effective : List (QuestionId × Answer) := []
  placed : List Placed := []

def ActivePlaced.put (validators : Validators) (answers : QuestionId → Option RawAnswer)
    (w : ActivePlaced) (p : Placed) : ActivePlaced :=
  { effective := w.effective ++ entry p.question (effectiveAnswer validators answers p.question)
    placed := w.placed ++ [p] }

theorem ActivePlaced.put_effective (w : ActivePlaced) (p : Placed) :
    (w.put validators answers p).effective =
      w.effective ++ entry p.question (effectiveAnswer validators answers p.question) := rfl

/-- The active sections, with their questions in place. -/
def ActiveSections.flat (w : ActiveSections) : ActivePlaced :=
  ⟨w.effective, w.sections.flatMap Section.placed⟩

/-- The active questions of a section, after those of the sections before. -/
def ActiveQuestions.flat (placed : List Placed) (s : Section) (a : ActiveQuestions) : ActivePlaced :=
  ⟨a.effective, placed ++ a.questions.map s.place⟩

theorem ActiveSections.flat_section (w : ActiveSections) (s : Section) :
    walkSection ActivePlaced.effective (ActivePlaced.put validators answers) w.flat s =
      (w.section_ validators answers s).flat := by
  unfold walkSection ActiveSections.section_
  change (if s.visibleWhen.all (evaluateCondition w.effective) then _ else _) = _
  split
  · have hquestion : ∀ (a : ActiveQuestions) (q : Question),
        walkQuestion ActivePlaced.effective (ActivePlaced.put validators answers) s
            (a.flat w.flat.placed s) q =
          (a.question validators answers q).flat w.flat.placed s := by
      intro a q
      rw [ActiveQuestions.question_eq]
      unfold walkQuestion
      change (if q.visibleWhen.all (evaluateCondition a.effective) then _ else _) = _
      split <;> simp [ActivePlaced.put, ActiveQuestions.flat, Section.place]
    have hfold : s.questions.foldl
          (walkQuestion ActivePlaced.effective (ActivePlaced.put validators answers) s)
          (ActiveQuestions.flat w.flat.placed s { effective := w.effective }) =
        (s.questions.foldl (ActiveQuestions.question validators answers)
          { effective := w.effective }).flat w.flat.placed s :=
      List.foldl_hom (ActiveQuestions.flat w.flat.placed s) hquestion
    have hstart : ActiveQuestions.flat w.flat.placed s { effective := w.effective } = w.flat := by
      simp [ActiveQuestions.flat, ActiveSections.flat]
    rw [hstart] at hfold
    rw [hfold]
    simp [ActiveSections.flat, ActiveQuestions.flat, Section.placed, Section.place]
  · rfl

/-- **`get_active_sections` is the walk over the answers it coerces.** -/
theorem activeSections_shown (h : schema.accepted validators = true)
    (answers : QuestionId → Option RawAnswer) :
    (getActiveSections validators answers schema).flatMap Section.placed =
      shown (effectiveAnswer validators answers) schema := by
  have hhom : schema.sections.foldl
        (walkSection ActivePlaced.effective (ActivePlaced.put validators answers))
        (ActiveSections.flat {}) =
      (schema.sections.foldl (ActiveSections.section_ validators answers) {}).flat :=
    List.foldl_hom ActiveSections.flat ActiveSections.flat_section
  have hwalk : schema.sections.foldl
        (walkSection ActivePlaced.effective (ActivePlaced.put validators answers)) {} =
      (shown (effectiveAnswer validators answers) schema).foldl
        (ActivePlaced.put validators answers) {} :=
    sections_foldl ActivePlaced.put_effective rfl h
  have hplaced : ∀ placed : List Placed,
      (placed.foldl (ActivePlaced.put validators answers) {}).placed = placed := by
    intro placed
    induction placed using List.reverseRecOn with
    | nil => rfl
    | append_singleton placed p ih =>
      rw [List.foldl_append, List.foldl_cons, List.foldl_nil, ActivePlaced.put, ih]
  have hsame := congrArg ActivePlaced.placed (hhom.symm.trans hwalk)
  rw [hplaced] at hsame
  exact hsame

theorem getActiveQuestions_shown (h : schema.accepted validators = true)
    (answers : QuestionId → Option RawAnswer) :
    getActiveQuestions validators answers schema =
      (shown (effectiveAnswer validators answers) schema).map (·.question) := by
  rw [← activeSections_shown h, getActiveQuestions, List.map_flatMap]
  congr 1
  funext s
  simp [Section.placed, Section.place, Function.comp_def]

/-- **The stored answers show what they were accepted for.** -/
theorem stored_shown (h : schema.accepted validators = true)
    (hstored : stored = answersOf (keptAnswer validators answers)
      (sanitizeShown validators answers schema)) :
    shown (effectiveAnswer validators (storedAnswers stored)) schema =
      sanitizeShown validators answers schema := by
  refine shown_congr h fun p hp => ?_
  have hraw : storedAnswers stored p.question.id =
      (keptAnswer validators answers p.question).map Answer.raw := by
    rw [storedAnswers, hstored, stored_lookup h hp]
  rw [effectiveAnswer, hraw]
  cases hkept : keptAnswer validators answers p.question with
  | none => rfl
  | some v =>
    obtain ⟨raw, -, -, hcoerce⟩ := kept_coerced hkept
    rw [Option.map_some, Option.bind_some, coerce_stored hcoerce]
    rfl

/-- A value that a required question can be left with. -/
def Answer.filled : Answer → Bool
  | .bool _ => true
  | .text t => strip t != []

/-- Every required question that the answers show has a value, and every value is of a question that
they show. -/
def Complete (validators : Validators) (schema : Schema) (stored : List (QuestionId × Answer)) : Prop :=
  (∀ q ∈ getActiveQuestions validators (storedAnswers stored) schema, q.required = true →
    ∃ v, stored.lookup q.id = some v ∧ v.filled = true) ∧
  ∀ x ∈ stored, x.1 ∈ (getActiveQuestions validators (storedAnswers stored) schema).map (·.id)

/-- A stored answer is filled unless it is the empty text. -/
theorem kept_filled {q : Question} {v : Answer} (h : keptAnswer validators answers q = some v) :
    v.filled = true ↔ v ≠ .text [] := by
  cases v with
  | bool b => simp [Answer.filled]
  | text t =>
    obtain ⟨raw, -, -, hcoerce⟩ := kept_coerced h
    have hstrip : strip t = t := by
      have hagain := coerce_stored hcoerce
      have htype : q.type ≠ .boolean := fun htype => by
        obtain ⟨b, hb⟩ := coerce_boolean htype hcoerce
        cases hb
      obtain ⟨t', ht', hv, -⟩ := coerce_text htype hagain
      cases ht'
      exact (Answer.text.inj hv).symm
    simp [Answer.filled, hstrip]

/-- **A completion leaves no required question without an answer exactly when none of them is
answered by spaces only.** -/
theorem complete_iff (validators : Validators) (u : Unicode) (schema : Schema)
    (answers : QuestionId → Option RawAnswer) (stored : List (QuestionId × Answer))
    (haccepted : schema.accepted validators = true)
    (hok : sanitizeAnswers validators u answers true schema = .ok stored) :
    Complete validators schema stored ↔
      ∀ q ∈ schema.questions, q.id ∈ activeQuestions validators answers true schema →
        q.required = true → ∀ raw, answers q.id = some raw → raw.onlySpaces = false := by
  obtain ⟨hstored, herrors, -⟩ := (sanitizeAnswers_ok haccepted).mp hok
  have hactive : getActiveQuestions validators (storedAnswers stored) schema =
      (sanitizeShown validators answers schema).map (·.question) := by
    rw [getActiveQuestions_shown haccepted, stored_shown haccepted hstored]
  constructor
  · rintro ⟨hrequired, -⟩ q hq hin hreq raw hraw
    obtain ⟨p, hp, rfl⟩ := active_shown haccepted hq hin
    rw [Bool.eq_false_iff]
    intro hspaces
    -- spaces pass the required check and are stored as the empty text
    have hkept := kept_onlySpaces hraw hspaces (herrors p hp)
    obtain ⟨v, hlookup, hfilled⟩ :=
      hrequired p.question (hactive ▸ List.mem_map_of_mem hp) hreq
    rw [hstored, stored_lookup haccepted hp, hkept] at hlookup
    cases hlookup
    simp [Answer.filled, strip_nil] at hfilled
  · intro hspaces
    refine ⟨?_, ?_⟩
    · intro q hq hreq
      rw [hactive] at hq
      obtain ⟨p, hp, rfl⟩ := List.mem_map.mp hq
      have hlookup := stored_lookup haccepted hp
      rw [← hstored] at hlookup
      rcases kept_or_blank (herrors p hp) with ⟨v, hv⟩ | ⟨-, hoptional⟩
      · refine ⟨v, hlookup.trans hv, (kept_filled hv).mpr ?_⟩
        rintro rfl
        obtain ⟨raw, hraw, honly⟩ := onlySpaces_of_kept hv
        have hnone := hspaces p.question (placed_question (shown_placed haccepted hp))
          (active_of_shown haccepted true hp) hreq raw hraw
        rw [hnone] at honly
        cases honly
      · -- a blank answer of a required question is an error
        rw [hreq] at hoptional
        cases hoptional
    · intro x hx
      rw [hstored] at hx
      obtain ⟨p, hp, hid, -⟩ := mem_answersOf.mp hx
      rw [hactive, List.map_map]
      exact List.mem_map.mpr ⟨p, hp, hid⟩

end Complete

section Blanks

variable {validators : Validators} {schema : Schema} {answers : QuestionId → Option RawAnswer}

/-- The comparisons of `get_active_questions`, where the empty text is an answer. -/
def readsBlanks (answers : QuestionId → Option RawAnswer) : Comparing :=
  fun field value => (answers field).any (·.reads value)

/-- The comparisons of `sanitize_answers`, where the empty text is no answer. -/
def skipsBlanks (answers : QuestionId → Option RawAnswer) : Comparing :=
  fun field value => (answers field).any fun raw => !raw.isEmpty && raw.reads value

/-- Each question in turn is shown or hidden alike, whether the empty text is an answer or not. -/
def blanksSettled (answers : QuestionId → Option RawAnswer) (schema : Schema) : Bool :=
  settled (readsBlanks answers) (skipsBlanks answers) [] schema.placed

theorem effective_reads (h : schema.accepted validators = true) :
    Reads schema (effectiveAnswer validators answers) (readsBlanks answers) := by
  intro q hq v hv
  have hcompares : q.comparesWith validators v = true := Schema.accepted_compares h hq hv rfl
  unfold effectiveAnswer readsBlanks
  cases answers q.id with
  | none => rfl
  | some raw => exact coerceAnswer_reads hcompares raw

theorem kept_reads (h : schema.accepted validators = true) :
    Reads schema (keptAnswer validators answers) (skipsBlanks answers) := by
  intro q hq v hv
  have hcompares : q.comparesWith validators v = true := Schema.accepted_compares h hq hv rfl
  unfold keptAnswer skipsBlanks
  cases answers q.id with
  | none => rfl
  | some raw =>
    rw [Option.bind_some, Option.any_some]
    cases raw.isEmpty with
    | true => rfl
    | false => exact coerceAnswer_reads hcompares raw

/-- Blanks are settled when no question that is answered by the empty text is compared with it. -/
theorem blanksSettled_of_uncompared
    (h : ∀ i, answers i = some (.text []) → (i, Answer.text []) ∉ schema.comparisons) :
    blanksSettled answers schema = true := by
  refine settled_of_agree (fun c hc => ?_) (fun _ hp => hp) []
  unfold readsBlanks skipsBlanks
  cases hraw : answers c.1 with
  | none => rfl
  | some raw =>
    rw [Option.any_some, Option.any_some]
    cases hempty : raw.isEmpty with
    | false => rfl
    | true =>
      -- of what is taken for missing, only the empty text equals a value
      rw [Bool.not_true, Bool.false_and, Bool.eq_false_iff]
      intro hreads
      obtain ⟨rfl, hvalue⟩ := reads_isEmpty hempty hreads
      refine h c.1 hraw ?_
      rw [← hvalue]
      exact hc

end Blanks

section Simulation

/-- `str.lower`, `\w` and `\d` on the characters of these runs. -/
def asciiUnicode : Unicode where
  lower := lower
  isWord c := c.isAlphanum || c == '_'
  isDigit := Char.isDigit

/-- A required text, and a question for those who answer it with anything but the empty text. -/
def noteSchema : Schema where
  title := "Abertura".toList
  sections :=
    [{ id := "dados".toList, title := "Dados".toList
       questions :=
        [{ id := "nome".toList, label := "Nome".toList, type := .text, required := true },
          { id := "nota".toList, label := "Nota".toList, type := .text
            visibleWhen := some (.notEquals "nome".toList (.text [])) }] }]

theorem noteSchema_accepted : noteSchema.accepted anyValidators = true := by decide +kernel

/-- The request has this text for every question. -/
def answeredWith (value : String) : QuestionId → Option RawAnswer :=
  fun _ => some (.text value.toList)

/-- A name is given, and what the hidden question would say does not count. -/
theorem sanitize_hidden_sim :
    sanitizeAnswers anyValidators asciiUnicode (answeredWith "não") true simSchema =
      sanitizeAnswers anyValidators asciiUnicode
        (fun i => if i = "possui".toList then some (.text "não".toList) else some .other) true simSchema :=
  sanitize_hidden anyValidators asciiUnicode true simSchema _ _ (by decide +kernel) (by decide +kernel)

/-- The answers of a plain draft are a fixed point. -/
theorem sanitize_again_sim :
    sanitizeAnswers anyValidators asciiUnicode
        (storedAnswers [("nome".toList, .text "Ana".toList), ("nota".toList, .text "Ana".toList)])
        true noteSchema =
      .ok [("nome".toList, .text "Ana".toList), ("nota".toList, .text "Ana".toList)] :=
  (sanitize_again_iff anyValidators asciiUnicode true noteSchema (answeredWith " Ana ") _
    noteSchema_accepted (by rfl)).mpr (by
      intro q _ _ raw hraw
      cases hraw
      rfl)

/-- **A name of spaces is stored as the empty text, and the next save drops it.** -/
theorem spaces_dropped :
    noteSchema.accepted anyValidators = true ∧
      sanitizeAnswers anyValidators asciiUnicode (answeredWith "  ") false noteSchema =
        .ok [("nome".toList, .text [])] ∧
      sanitizeAnswers anyValidators asciiUnicode (storedAnswers [("nome".toList, .text [])]) false
        noteSchema = .ok [] := by
  exact ⟨noteSchema_accepted, by rfl, by rfl⟩

/-- **A name of spaces completes a briefing that requires the name.** -/
theorem spaces_complete :
    noteSchema.accepted anyValidators = true ∧
      sanitizeAnswers anyValidators asciiUnicode (answeredWith "  ") true noteSchema =
        .ok [("nome".toList, .text [])] ∧
      ¬ Complete anyValidators noteSchema [("nome".toList, .text [])] := by
  refine ⟨noteSchema_accepted, by rfl, fun h => ?_⟩
  obtain ⟨v, hlookup, hfilled⟩ := h.1
    { id := "nome".toList, label := "Nome".toList, type := .text, required := true }
    (List.mem_singleton_self _) rfl
  cases hlookup
  cases hfilled

/-- A name that is given completes the briefing. -/
theorem complete_sim :
    Complete anyValidators noteSchema
      [("nome".toList, .text "Ana".toList), ("nota".toList, .text "Ana".toList)] :=
  (complete_iff anyValidators asciiUnicode noteSchema (answeredWith "Ana") _ noteSchema_accepted
    (by rfl)).mpr (by
      intro q _ _ _ raw hraw
      cases hraw
      rfl)

/-- A note that is asked of some, and a question for those whose note is not the empty text. -/
def hiddenNoteSchema : Schema where
  title := "Abertura".toList
  sections :=
    [{ id := "dados".toList, title := "Dados".toList
       questions :=
        [{ id := "nome".toList, label := "Nome".toList, type := .text },
          { id := "nota".toList, label := "Nota".toList, type := .text
            visibleWhen := some (.equals "nome".toList (.text "Ana".toList)) },
          { id := "motivo".toList, label := "Motivo".toList, type := .text
            visibleWhen := some (.notEquals "nota".toList (.text [])) }] }]

end Simulation

end SheepContabil.SC06
