import Mathlib.Data.List.Nodup
import SheepContabil.Spec.Sc06Rules

/-!
# SC-06: the conditions of a schema

A condition only asks which comparisons are true. Both interpreters, the server's and that of
`app.js`, are one evaluation over the comparisons, and validation says which comparisons a schema
makes.

* `Condition.holds`: a condition, from the truth of its comparisons.
* `evaluateCondition_holds`, `evaluate_holds`: the two interpreters.
* `Schema.accepted_compares`: a question is only compared with values that it can have.
-/

namespace SheepContabil.SC06

mutual

/-- The comparisons of a condition: the question and the value. -/
def Condition.comparisons : Condition → List (QuestionId × Answer)
  | .equals field value | .notEquals field value => [(field, value)]
  | .isIn field values => values.map fun value => (field, value)
  | .all conditions | .any conditions => allComparisons conditions

def allComparisons : List Condition → List (QuestionId × Answer)
  | [] => []
  | c :: rest => c.comparisons ++ allComparisons rest

end

def optionalComparisons (condition : Option Condition) : List (QuestionId × Answer) :=
  condition.elim [] Condition.comparisons

def Section.comparisons (s : Section) : List (QuestionId × Answer) :=
  optionalComparisons s.visibleWhen ++ s.questions.flatMap fun q => optionalComparisons q.visibleWhen

/-- Every comparison of the schema. -/
def Schema.comparisons (schema : Schema) : List (QuestionId × Answer) :=
  schema.sections.flatMap Section.comparisons

section Conditions

/-- Which comparisons of a question with a value are true. -/
abbrev Comparing := QuestionId → Answer → Bool

mutual

/-- A condition, from the truth of its comparisons. -/
def Condition.holds (truth : Comparing) : Condition → Bool
  | .equals field value => truth field value
  | .notEquals field value => !truth field value
  | .isIn field values => values.any (truth field)
  | .all conditions => allHold truth conditions
  | .any conditions => someHold truth conditions

def allHold (truth : Comparing) : List Condition → Bool
  | [] => true
  | c :: rest => c.holds truth && allHold truth rest

def someHold (truth : Comparing) : List Condition → Bool
  | [] => false
  | c :: rest => c.holds truth || someHold truth rest

end

/-- What a list of answers says of a comparison. -/
def comparing (answers : List (QuestionId × Answer)) : Comparing :=
  fun field value => answers.lookup field == some value

variable {truth truth' : Comparing} (answers : List (QuestionId × Answer))

mutual

/-- A condition has one value over comparisons that agree. -/
theorem holds_congr : ∀ c : Condition, (∀ p ∈ c.comparisons, truth p.1 p.2 = truth' p.1 p.2) →
    c.holds truth = c.holds truth'
  | .equals field value, h => h (field, value) (by simp [Condition.comparisons])
  | .notEquals field value, h => by
    have hleaf := h (field, value) (by simp [Condition.comparisons])
    rw [Condition.holds, Condition.holds, hleaf]
  | .isIn field values, h => by
    have hleaf : ∀ value ∈ values, truth field value = truth' field value := fun value hv =>
      h (field, value) (by simp [Condition.comparisons, hv])
    rw [Condition.holds, Condition.holds, Bool.eq_iff_iff, List.any_eq_true, List.any_eq_true]
    exact exists_congr fun value => and_congr_right fun hv => by rw [hleaf value hv]
  | .all conditions, h => (allHold_congr conditions h).1
  | .any conditions, h => (allHold_congr conditions h).2

theorem allHold_congr : ∀ cs : List Condition,
    (∀ p ∈ allComparisons cs, truth p.1 p.2 = truth' p.1 p.2) →
    allHold truth cs = allHold truth' cs ∧ someHold truth cs = someHold truth' cs
  | [], _ => ⟨rfl, rfl⟩
  | c :: rest, h => by
    have hc := holds_congr c fun p hp => h p (by simp [allComparisons, hp])
    obtain ⟨hall, hany⟩ := allHold_congr rest fun p hp => h p (by simp [allComparisons, hp])
    simp only [allHold, someHold]
    exact ⟨by rw [hc, hall], by rw [hc, hany]⟩

end

mutual

/-- `evaluate_condition` reads the answers by comparing them. -/
theorem evaluateCondition_holds : ∀ c : Condition,
    evaluateCondition answers c = c.holds (comparing answers)
  | .equals _ _ => rfl
  | .notEquals _ _ => rfl
  | .isIn _ _ => rfl
  | .all conditions => (evaluateConditions_hold conditions).1
  | .any conditions => (evaluateConditions_hold conditions).2

theorem evaluateConditions_hold : ∀ cs : List Condition,
    (evaluateConditions answers cs).all id = allHold (comparing answers) cs ∧
      (evaluateConditions answers cs).any id = someHold (comparing answers) cs
  | [] => ⟨rfl, rfl⟩
  | c :: rest => by
    have hc := evaluateCondition_holds c
    obtain ⟨hall, hany⟩ := evaluateConditions_hold rest
    simp only [evaluateConditions, allHold, someHold, List.all_cons, List.any_cons, id_eq]
    exact ⟨by rw [hc, hall], by rw [hc, hany]⟩

end

mutual

/-- So does `evaluate` of `app.js`. -/
theorem evaluate_holds : ∀ c : Condition, evaluate answers c = c.holds (comparing answers)
  | .equals _ _ => rfl
  | .notEquals _ _ => rfl
  | .isIn field values => by
    rw [evaluate, Condition.holds]
    unfold comparing
    cases answers.lookup field with
    | none => simp
    | some actual =>
      rw [Bool.eq_iff_iff, List.contains_iff_mem, List.any_eq_true]
      constructor
      · exact fun hmem => ⟨actual, hmem, by simp⟩
      · rintro ⟨value, hmem, heq⟩
        obtain rfl : actual = value := by simpa using heq
        exact hmem
  | .all conditions => (evaluateEvery_holds conditions).1
  | .any conditions => (evaluateEvery_holds conditions).2

theorem evaluateEvery_holds : ∀ cs : List Condition,
    evaluateEvery answers cs = allHold (comparing answers) cs ∧
      evaluateSome answers cs = someHold (comparing answers) cs
  | [] => ⟨rfl, rfl⟩
  | c :: rest => by
    have hc := evaluate_holds c
    obtain ⟨hall, hany⟩ := evaluateEvery_holds rest
    simp only [evaluateEvery, evaluateSome, allHold, someHold]
    exact ⟨by rw [hc, hall], by rw [hc, hany]⟩

end

/-- **The two interpreters are the same function of the answers.** -/
theorem evaluate_eq : evaluate answers = evaluateCondition answers :=
  funext fun c => (evaluate_holds answers c).trans (evaluateCondition_holds answers c).symm

end Conditions

section Accepted

variable {validators : Validators} {before : List Question}

theorem comparable_question {field : QuestionId} {value : Answer}
    (h : comparable validators before field value = true) :
    ∃ q ∈ before, q.id = field ∧ q.comparesWith validators value = true := by
  unfold comparable at h
  cases hfind : before.find? fun q => q.id == field with
  | none => simp [hfind] at h
  | some q =>
    rw [hfind] at h
    exact ⟨q, List.mem_of_find?_eq_some hfind, by simpa using List.find?_some hfind, h⟩

mutual

theorem comparable_of_accepted : ∀ (c : Condition) (depth : ℕ),
    c.accepted validators before depth = true →
    ∀ p ∈ c.comparisons, comparable validators before p.1 p.2 = true
  | .equals field value, depth, h => by
    simp only [Condition.accepted, Bool.and_eq_true] at h
    simpa [Condition.comparisons] using h.2
  | .notEquals field value, depth, h => by
    simp only [Condition.accepted, Bool.and_eq_true] at h
    simpa [Condition.comparisons] using h.2
  | .isIn field values, depth, h => by
    simp only [Condition.accepted, Bool.and_eq_true] at h
    simp only [Condition.comparisons, List.mem_map]
    rintro p ⟨value, hv, rfl⟩
    exact List.all_eq_true.mp h.2 value hv
  | .all conditions, depth, h => by
    simp only [Condition.accepted, Bool.and_eq_true] at h
    exact comparable_of_acceptedAll conditions (depth + 1) h.2
  | .any conditions, depth, h => by
    simp only [Condition.accepted, Bool.and_eq_true] at h
    exact comparable_of_acceptedAll conditions (depth + 1) h.2

theorem comparable_of_acceptedAll : ∀ (cs : List Condition) (depth : ℕ),
    acceptedAll validators before depth cs = true →
    ∀ p ∈ allComparisons cs, comparable validators before p.1 p.2 = true
  | [], _, _ => by simp [allComparisons]
  | c :: rest, depth, h => by
    simp only [acceptedAll, Bool.and_eq_true] at h
    intro p hp
    rcases List.mem_append.mp hp with hp | hp
    · exact comparable_of_accepted c depth h.1 p hp
    · exact comparable_of_acceptedAll rest depth h.2 p hp

end

theorem comparable_optional {condition : Option Condition}
    (h : acceptedCondition validators before condition = true) :
    ∀ p ∈ optionalComparisons condition, comparable validators before p.1 p.2 = true := by
  cases condition with
  | none => simp [optionalComparisons]
  | some c => exact comparable_of_accepted c 0 h

/-- Every comparison of the questions of a section is with an earlier question. -/
theorem acceptedQuestions_comparable : ∀ {before questions : List Question},
    acceptedQuestions validators before questions = true →
    ∀ p ∈ questions.flatMap fun q => optionalComparisons q.visibleWhen,
      ∃ q ∈ before ++ questions, q.id = p.1 ∧ q.comparesWith validators p.2 = true
  | _, [], _, p, hp => by simp at hp
  | before, q :: rest, h, p, hp => by
    simp only [acceptedQuestions, Bool.and_eq_true] at h
    rw [List.flatMap_cons, List.mem_append] at hp
    rcases hp with hp | hp
    · obtain ⟨q', hq', hid, hcompares⟩ := comparable_question (comparable_optional h.1 p hp)
      exact ⟨q', List.mem_append_left _ hq', hid, hcompares⟩
    · obtain ⟨q', hq', hid, hcompares⟩ := acceptedQuestions_comparable h.2 p hp
      exact ⟨q', by simpa using hq', hid, hcompares⟩

theorem acceptedSections_comparable : ∀ {before : List Question} {sections : List Section},
    acceptedSections validators before sections = true →
    ∀ p ∈ sections.flatMap Section.comparisons,
      ∃ q ∈ before ++ sections.flatMap (·.questions), q.id = p.1 ∧
        q.comparesWith validators p.2 = true
  | _, [], _, p, hp => by simp at hp
  | before, s :: rest, h, p, hp => by
    simp only [acceptedSections, Bool.and_eq_true] at h
    rw [List.flatMap_cons, List.mem_append, Section.comparisons, List.mem_append] at hp
    rw [List.flatMap_cons]
    rcases hp with (hp | hp) | hp
    · obtain ⟨q', hq', hid, hcompares⟩ := comparable_question (comparable_optional h.1.1 p hp)
      exact ⟨q', List.mem_append_left _ hq', hid, hcompares⟩
    · obtain ⟨q', hq', hid, hcompares⟩ := acceptedQuestions_comparable h.1.2 p hp
      refine ⟨q', ?_, hid, hcompares⟩
      rw [← List.append_assoc]
      exact List.mem_append_left _ hq'
    · obtain ⟨q', hq', hid, hcompares⟩ := acceptedSections_comparable h.2 p hp
      exact ⟨q', by simpa [List.append_assoc] using hq', hid, hcompares⟩

theorem Schema.accepted_nodup {schema : Schema} (h : schema.accepted validators = true) :
    (schema.questions.map (·.id)).Nodup := by
  simp only [Schema.accepted, Bool.and_eq_true, decide_eq_true_eq] at h
  exact h.1.2

/-- **A question of an accepted schema can be compared with every value it is compared with.** -/
theorem Schema.accepted_compares {schema : Schema} (h : schema.accepted validators = true)
    {q : Question} (hq : q ∈ schema.questions) {p : QuestionId × Answer}
    (hp : p ∈ schema.comparisons) (hid : q.id = p.1) : q.comparesWith validators p.2 = true := by
  have hsections : acceptedSections validators [] schema.sections = true := by
    simp only [Schema.accepted, Bool.and_eq_true] at h
    exact h.2
  obtain ⟨q', hq', hid', hcompares⟩ := acceptedSections_comparable hsections p hp
  rw [List.nil_append] at hq'
  have hsame : q' = q :=
    List.inj_on_of_nodup_map (Schema.accepted_nodup h) hq' hq (hid'.trans hid.symm)
  exact hsame ▸ hcompares

end Accepted

section Entries

/-- The entry that a question adds to the answers. -/
def entry (q : Question) (answer : Option Answer) : List (QuestionId × Answer) :=
  answer.toList.map fun a => (q.id, a)

theorem lookup_fresh {answers : List (QuestionId × Answer)} {field : QuestionId}
    (h : ∀ p ∈ answers, p.1 ≠ field) : answers.lookup field = none := by
  rw [List.lookup_eq_none_iff]
  intro p hp
  simpa using (h p hp).symm

theorem lookup_entry (q : Question) (answer : Option Answer) (field : QuestionId) :
    (entry q answer).lookup field = if field = q.id then answer else none := by
  cases answer with
  | none => simp [entry]
  | some a =>
    by_cases heq : field = q.id
    · simp [entry, heq]
    · simp [entry, List.lookup_cons, heq, beq_eq_false_iff_ne.mpr heq]

end Entries

section Runs

/-- A question that depends on the text of another. -/
def simSchema : Schema where
  title := "Abertura".toList
  sections :=
    [{ id := "dados".toList, title := "Dados".toList
       questions :=
        [{ id := "possui".toList, label := "Possui filial?".toList, type := .text },
          { id := "filial".toList, label := "Filial".toList, type := .text
            visibleWhen := some (.equals "possui".toList (.text "sim".toList)) }] }]

def anyValidators : Validators := ⟨fun _ => true, fun _ => true⟩

end Runs

end SheepContabil.SC06
