import SheepContabil.Spec.Sc06Page
import SheepContabil.Proof.Sc06Answers

/-!
# SC-06: the browser and the server on what is visible

`app.js` compares what the form has read of the controls, as it stands; the server compares what it
makes of what they hold. A question is told apart by a text with spaces around it, by the mask of a
document, and by a boolean that is typed as a text.

* `visibility_shown`: the walk of `app.js`, as a fold over the questions it shows.
* `visible_iff_active`: both show the same until a condition tells the two readings apart.
* `pageSettled_of_plain`: no condition does on a page of plain texts.
-/

namespace SheepContabil.SC06

section Browser

variable {validators : Validators} {schema : Schema} {controls : Controls}

/-- The browser keeps what it has read, unless it is blank. -/
theorem question_visible {v : Visibility} {q : Question}
    (hvisible : q.visibleWhen.all (evaluateCondition v.effective) = true) :
    v.question controls true q =
      { effective := v.effective ++ entry q (syncFromDom controls q)
        visible := v.visible ++ [q.id] } := by
  unfold Visibility.question syncFromDom entry
  rw [evaluate_eq, Bool.true_and, if_pos hvisible]
  by_cases hempty : controls q.id = []
  · simp [hempty]
  · by_cases htype : q.type = .boolean
    · simp [hempty, htype, isEmptyAnswer]
    · cases hvalue : controls q.id with
      | nil => exact absurd hvalue hempty
      | cons c rest => simp [htype, isEmptyAnswer]

/-- A section that is not visible shows nothing. -/
theorem hidden_section (questions : List Question) (v : Visibility) :
    questions.foldl (Visibility.question controls false) v = v := by
  induction questions with
  | nil => rfl
  | cons q rest ih => simpa [Visibility.question] using ih

/-- A visible question of the walk of `app.js`. -/
def putVisible (controls : Controls) (v : Visibility) (p : Placed) : Visibility where
  effective := v.effective ++ entry p.question (syncFromDom controls p.question)
  visible := v.visible ++ [p.question.id]

theorem section_walked (controls : Controls) (v : Visibility) (s : Section) :
    v.section_ controls s = walkSection Visibility.effective (putVisible controls) v s := by
  have hquestion : Visibility.question controls true =
      walkQuestion Visibility.effective (putVisible controls) s := by
    funext v q
    unfold walkQuestion
    split
    · next hshown => exact question_visible hshown
    · next hhidden => simp [Visibility.question, evaluate_eq, hhidden]
  unfold Visibility.section_ walkSection
  rw [evaluate_eq]
  cases s.visibleWhen.all (evaluateCondition v.effective) with
  | true => rw [if_pos rfl, hquestion]
  | false => rw [hidden_section]; rfl

/-- **The walk of `app.js` shows what its answers make visible.** -/
theorem visibility_shown (h : schema.accepted validators = true) (controls : Controls) :
    visibleQuestions controls schema =
      (shown (syncFromDom controls) schema).map (·.question.id) := by
  have hfold : visibility controls schema =
      (shown (syncFromDom controls) schema).foldl (putVisible controls) {} := by
    unfold visibility
    rw [show Visibility.section_ controls = walkSection Visibility.effective (putVisible controls) from
      funext fun v => funext fun s => section_walked controls v s]
    exact sections_foldl (fun _ _ => rfl) rfl h
  rw [visibleQuestions, hfold]
  generalize shown (syncFromDom controls) schema = placed
  induction placed using List.reverseRecOn with
  | nil => rfl
  | append_singleton placed p ih =>
    rw [List.foldl_append, List.foldl_cons, List.foldl_nil, putVisible, ih]
    simp

/-- The comparisons of `app.js`: a text as it is read, and `true` against any other. -/
def readsControls (controls : Controls) : Comparing
  | field, .text t => controls field != [] && controls field == t
  | field, .bool b => controls field != [] && (controls field == "true".toList) == b

theorem browser_reads (h : schema.accepted validators = true) (controls : Controls) :
    Reads schema (syncFromDom controls) (readsControls controls) := by
  intro q hq v hv
  have hcompares : q.comparesWith validators v = true := Schema.accepted_compares h hq hv rfl
  unfold syncFromDom
  cases v with
  | bool b =>
    have htype : q.type = .boolean := by simpa [Question.comparesWith] using hcompares
    rw [if_pos htype, readsControls]
    by_cases hempty : controls q.id = []
    · simp [hempty]
    · rw [if_neg hempty, bne_iff_ne.mpr hempty, Bool.true_and, Bool.eq_iff_iff]
      simp
  | text t =>
    have htype : q.type ≠ .boolean := by
      simp only [Question.comparesWith, Bool.and_eq_true, bne_iff_ne] at hcompares
      exact hcompares.1
    rw [if_neg htype, readsControls]
    by_cases hempty : controls q.id = []
    · simp [hempty]
    · rw [if_neg hempty, bne_iff_ne.mpr hempty, Bool.true_and, Bool.eq_iff_iff]
      simp

/-- Each question in turn is shown or hidden alike, on what the form has read and on what the controls
hold. -/
def pageSettled (page : Page) (schema : Schema) : Bool :=
  settled (readsControls page.seen) (skipsBlanks page.held.raw) [] schema.placed

/-- The values of the select of a boolean are read alike. -/
theorem select_alike : ∀ b, ∀ t ∈ [[], "true".toList, "false".toList],
    (t != [] && (t == "true".toList) == b) =
      (!(RawAnswer.text t).isEmpty && (RawAnswer.text t).reads (.bool b)) := by
  decide +kernel

/-- A page of plain texts: no control has changed since it was read, none holds a compared text with
spaces around it, and those of the compared booleans hold what a select does. -/
structure Plain (page : Page) (schema : Schema) : Prop where
  unchanged : page.held = page.seen
  texts : ∀ i t, (i, Answer.text t) ∈ schema.comparisons → strip (page.held i) = t → page.held i = t
  booleans : ∀ i b, (i, Answer.bool b) ∈ schema.comparisons →
    page.held i ∈ [[], "true".toList, "false".toList]

/-- **On a page of plain texts the browser and the server agree.** -/
theorem pageSettled_of_plain {page : Page} (h : schema.accepted validators = true)
    (hplain : Plain page schema) : pageSettled page schema = true := by
  refine settled_of_agree (fun c hc => ?_) (fun _ hp => hp) []
  obtain ⟨i, v⟩ := c
  rw [← hplain.unchanged]
  unfold skipsBlanks Controls.raw
  rw [Option.any_some]
  cases v with
  | bool b => exact select_alike b _ (hplain.booleans i b hc)
  | text t =>
    by_cases hempty : page.held i = []
    · rw [readsControls, hempty]
      rfl
    · have hpresent : (RawAnswer.text (page.held i)).isEmpty = false := by
        cases hvalue : page.held i with
        | nil => exact absurd hvalue hempty
        | cons c rest => rfl
      rw [readsControls, bne_iff_ne.mpr hempty, Bool.true_and, hpresent, Bool.not_false,
        Bool.true_and, RawAnswer.reads, Bool.eq_iff_iff, beq_iff_eq, beq_iff_eq]
      refine ⟨fun heq => ?_, hplain.texts i t hc⟩
      -- a compared text has no space around it
      rw [heq]
      exact Schema.accepted_stripped h hc

end Browser

section Pages

/-- The same text for every control. -/
def filled (value : String) : Controls := fun _ => value.toList

/-- A text and a question for those who give this one. -/
def maskedSchema : Schema where
  title := "Abertura".toList
  sections :=
    [{ id := "dados".toList, title := "Dados".toList
       questions :=
        [{ id := "current_cnpj".toList, label := "CNPJ".toList, type := .text },
          { id := "filial".toList, label := "Filial".toList, type := .text
            visibleWhen := some (.equals "current_cnpj".toList (.text "12345678000195".toList)) }] }]

/-- A boolean that the page asks for as a name. -/
def marriedSchema : Schema where
  title := "Abertura".toList
  sections :=
    [{ id := "dados".toList, title := "Dados".toList
       questions :=
        [{ id := "married_partner_name".toList, label := "Casado?".toList, type := .boolean },
          { id := "motivo".toList, label := "Motivo".toList, type := .text
            visibleWhen := some (.equals "married_partner_name".toList (.bool false)) }] }]

end Pages

end SheepContabil.SC06
