import SheepContabil.Proof.Sc06Schema

/-!
# SC-06: what an accepted schema is enough for

* `conditionsOfSections_accepted`: the conditions of an accepted schema look back, and are evaluated
  whatever the answers.
* `eachVisible_returns`: the loop of the interpreters returns when each visit does.
* `validatesWell_iff`: the validator is total on a schema, and sufficient, iff it hashes no list and
  no dictionary there.
-/

namespace SheepContabil.SC06.Json

open Py

section Accepted

variable {validators : Validators} {known : Definitions} {before : ℕ} {context : String}

theorem compositeChildren_ok {node : Dict} {children : List Value}
    (h : compositeChildren context node = .ok children) :
    node.lookup "conditions" = some (.list children) ∧ children ≠ [] := by
  obtain ⟨_, _, h⟩ := bind_eq_ok.1 h
  obtain ⟨xs, hxs, h⟩ := bind_eq_ok.1 h
  split at h
  · cases h
  · rename_i hne
    cases h
    exact ⟨lookup_of_get (requireList_ok hxs) (by simp), by simpa using hne⟩

theorem each_ok {check : Value → Check Unit} {values : List Value} (h : each check values = .ok ()) :
    ∀ v ∈ values, check v = .ok () := by
  induction values with
  | nil => simp
  | cons v rest ih =>
    obtain ⟨_, hv, hrest⟩ := bind_eq_ok.1 h
    intro w hw
    rcases List.mem_cons.1 hw with rfl | hw
    · exact hv
    · exact ih hrest w hw

/-- The comparison of an accepted leaf: its operator, the question it compares and, of an `in`, the
list. -/
theorem validateLeaf_ok {node : Dict} {operator : Value}
    (h : validateLeaf validators known before context node operator = .ok ()) :
    ∃ field position question, Dict.get node "field" = .str field ∧
      known.lookup field = some (position, question) ∧ position < before ∧
      (operator.str? = some "in" → ∃ values, Dict.get node "value" = .list values) := by
  obtain ⟨_, _, h⟩ := bind_eq_ok.1 h
  split at h
  · cases h
  rename_i field hfield
  split at h
  · cases h
  rename_i position question hquestion
  split at h
  · cases h
  rename_i hbefore
  split at h
  · cases h
  rename_i value hvalue
  have hget : Dict.get node "field" = .str field := by
    cases hv : Dict.get node "field" <;> simp_all [Value.str?]
  refine ⟨field, position, question, hget, hquestion, by omega, fun hin => ?_⟩
  rw [if_pos hin] at h
  obtain ⟨values, hvalues, _⟩ := bind_eq_ok.1 h
  rw [get_of_lookup hvalue]
  exact ⟨values, requireList_ok hvalues⟩

/-- **The two kinds of accepted conditions.** -/
theorem validateCondition_ok {levels : ℕ} {condition : Value}
    (h : validateCondition validators known before context (levels + 1) condition = .ok ()) :
    ∃ node, condition = .dict node ∧
      ((isIn (Dict.get node "operator") compositeOperators = .ok true ∧
        ∃ children, node.lookup "conditions" = some (.list children) ∧ children ≠ [] ∧
          ∀ c ∈ children, validateCondition validators known before context levels c = .ok ()) ∨
      (isIn (Dict.get node "operator") compositeOperators = .ok false ∧
        isIn (Dict.get node "operator") leafOperators = .ok true ∧
        validateLeaf validators known before context node (Dict.get node "operator") = .ok ())) := by
  obtain ⟨node, hnode, h⟩ := bind_eq_ok.1 h
  obtain ⟨composite, hcomposite, h⟩ := bind_eq_ok.1 h
  refine ⟨node, requireMapping_ok hnode, ?_⟩
  cases composite with
  | true =>
    obtain ⟨children, hchildren, heach⟩ := bind_eq_ok.1 h
    obtain ⟨hlookup, hne⟩ := compositeChildren_ok hchildren
    exact .inl ⟨hcomposite, children, hlookup, hne, each_ok heach⟩
  | false =>
    obtain ⟨leaf, hleaf, h⟩ := bind_eq_ok.1 h
    cases leaf with
    | true => exact .inr ⟨hcomposite, hleaf, h⟩
    | false => cases h

theorem childResults_eq (answers : Dict) {node : Dict} {children : List Value}
    (h : node.lookup "conditions" = some (.list children)) (hne : children ≠ []) :
    childResults answers node = evaluateEach answers children := by
  induction node with
  | nil => cases h
  | cons kv rest ih =>
    obtain ⟨key, v⟩ := kv
    rw [List.lookup_cons] at h
    by_cases hkey : ("conditions" == key) = true
    · simp only [hkey] at h
      obtain rfl := Option.some.inj h
      cases children with
      | nil => exact absurd rfl hne
      | cons c cs => simp [childResults, resultsOf, hkey]
    · simp only [hkey] at h
      simpa [childResults, hkey] using ih h

theorem evaluateEach_returns {answers : Dict} : ∀ {children : List Value},
    (∀ c ∈ children, ∃ b, evaluateCondition answers c = .ok b) →
    ∃ results, evaluateEach answers children = .ok results := by
  intro children
  induction children with
  | nil => exact fun _ => ⟨[], by simp [evaluateEach]⟩
  | cons c rest ih =>
    intro h
    obtain ⟨b, hb⟩ := h c List.mem_cons_self
    obtain ⟨results, hresults⟩ := ih fun c hc => h c (List.mem_cons_of_mem _ hc)
    exact ⟨b :: results, by simp [evaluateEach, hb, hresults, Bind.bind, Except.bind, pure, Except.pure]⟩

/-- A condition that the interpreters can evaluate. -/
def Evaluable (condition : Value) : Prop :=
  ∀ answers, ∃ b, evaluateCondition answers condition = .ok b

theorem evaluateLeaf_returns (answers : Dict) (hknown : Known known) {node : Dict}
    (hoperator : isIn (Dict.get node "operator") leafOperators = .ok true)
    (h : validateLeaf validators known before context node (Dict.get node "operator") = .ok ()) :
    ∃ b, evaluateLeaf answers node (Dict.get node "operator") = .ok b := by
  obtain ⟨field, position, question, hfield, hquestion, -, hin⟩ := validateLeaf_ok h
  have hne : field ≠ "" := hknown.named field (List.mem_of_getElem? (hknown.place hquestion))
  obtain ⟨operator, hop, hmem⟩ := isIn_ok hoperator
  rw [evaluateLeaf, hoperator]
  simp only [hfield, Value.str?_str, hne, if_false, Bind.bind, Except.bind, if_true]
  rw [hop] at hin ⊢
  simp only [leafOperators, List.mem_cons, List.not_mem_nil, or_false] at hmem
  rcases hmem with rfl | rfl | rfl
  · exact ⟨_, rfl⟩
  · exact ⟨_, rfl⟩
  · obtain ⟨values, hvalues⟩ := hin rfl
    rw [hvalues]
    exact ⟨_, rfl⟩

/-- **An accepted condition is evaluated**, whatever the answers. -/
theorem validateCondition_evaluable (hknown : Known known) : ∀ {levels : ℕ} {condition : Value},
    validateCondition validators known before context levels condition = .ok () →
    Evaluable condition := by
  intro levels
  induction levels with
  | zero =>
    intro condition h
    cases h
  | succ levels ih =>
    intro condition h answers
    obtain ⟨node, rfl, hkinds⟩ := validateCondition_ok h
    rcases hkinds with ⟨hcomposite, children, hlookup, hne, hchildren⟩ | ⟨hcomposite, hleaf, hok⟩
    · obtain ⟨results, hresults⟩ := evaluateEach_returns fun c hc => ih (hchildren c hc) answers
      rw [evaluateCondition, hcomposite, childResults_eq answers hlookup hne, hresults]
      exact ⟨_, rfl⟩
    · obtain ⟨b, hb⟩ := evaluateLeaf_returns answers hknown hleaf hok
      rw [evaluateCondition, hcomposite]
      exact ⟨b, hb⟩

theorem validateVisibleWhen_evaluable (hknown : Known known) {condition : Value}
    (h : validateVisibleWhen validators known before context condition = .ok ()) :
    Evaluable condition := by
  unfold validateVisibleWhen at h
  split at h
  · exact fun answers => ⟨true, by simp [evaluateCondition]⟩
  · exact validateCondition_evaluable hknown h

/-- **The questions an accepted condition refers to** are known, before it. -/
theorem validateCondition_refers : ∀ {levels : ℕ} {condition : Value} {field : String},
    validateCondition validators known before context levels condition = .ok () →
    Refers condition field → ∃ position question,
      known.lookup field = some (position, question) ∧ position < before := by
  intro levels
  induction levels with
  | zero =>
    intro condition field h
    cases h
  | succ levels ih =>
    intro condition field h hrefers
    obtain ⟨node, rfl, hkinds⟩ := validateCondition_ok h
    cases hrefers with
    | leaf hoperator hfield =>
      -- the validator and `Refers` read the same operator
      rcases hkinds with ⟨hcomposite, -⟩ | ⟨-, -, hok⟩
      · rw [hcomposite] at hoperator
        cases hoperator
      · obtain ⟨field', position, question, hget, hquestion, hlt, -⟩ := validateLeaf_ok hok
        rw [hfield] at hget
        cases hget
        exact ⟨position, question, hquestion, hlt⟩
    | child hoperator hlist hmem hchild =>
      rcases hkinds with ⟨-, children, hlookup, -, hchildren⟩ | ⟨hcomposite, -⟩
      · rw [get_of_lookup hlookup] at hlist
        cases hlist
        exact ih (hchildren _ hmem) hchild
      · rw [hcomposite] at hoperator
        cases hoperator

theorem validateVisibleWhen_refers {condition : Value} {field : String}
    (h : validateVisibleWhen validators known before context condition = .ok ())
    (hrefers : Refers condition field) : ∃ position question,
      known.lookup field = some (position, question) ∧ position < before := by
  unfold validateVisibleWhen at h
  split at h
  · cases hrefers
  · exact validateCondition_refers h hrefers

end Accepted

section Conditions

variable {validators : Validators} {known : Definitions}

/-- A question known before a place is among the first ones. -/
theorem Known.earlier (hknown : Known known) {earlier later : List String}
    (hids : known.map Prod.fst = earlier ++ later) {field : String}
    (h : ∃ position question, known.lookup field = some (position, question) ∧
      position < earlier.length) : field ∈ earlier := by
  obtain ⟨position, question, hquestion, hlt⟩ := h
  have hplace := hknown.place hquestion
  rw [hids, List.getElem?_append_left hlt] at hplace
  exact List.mem_of_getElem? hplace

/-- The conditions of the questions of an accepted section. -/
theorem conditionsOfQuestions_accepted (hknown : Known known) : ∀ {questions : List Value}
    {earlier later : List String} {reached : ℕ}, (∀ q ∈ questions, WellFormedQuestion q) →
    known.map Prod.fst = earlier ++ (questions.map idOf ++ later) →
    conditionsOfQuestions validators known earlier.length questions = .ok reached →
    BackwardQuestions earlier questions ∧ ∀ q ∈ questions, Evaluable (conditionOf q) := by
  intro questions
  induction questions with
  | nil => exact fun _ _ _ => ⟨trivial, by simp⟩
  | cons q rest ih =>
    intro earlier later reached hwf hids h
    obtain ⟨hid, hcondition⟩ := (hwf q List.mem_cons_self).id
    rw [conditionsOfQuestions, hid, hcondition, ok_bind, ok_bind] at h
    obtain ⟨_, hvisible, hrest⟩ := bind_eq_ok.1 h
    have hids' : known.map Prod.fst = (earlier ++ [idOf q]) ++ (rest.map idOf ++ later) := by
      simpa using hids
    have hlength : earlier.length + 1 = (earlier ++ [idOf q]).length := by simp
    rw [hlength] at hrest
    obtain ⟨hback, heval⟩ := ih (fun q hq => hwf q (List.mem_cons_of_mem _ hq)) hids' hrest
    refine ⟨⟨fun field hrefers => ?_, hback⟩, fun x hx => ?_⟩
    · exact hknown.earlier hids (validateVisibleWhen_refers hvisible hrefers)
    · rcases List.mem_cons.1 hx with rfl | hx
      · exact validateVisibleWhen_evaluable hknown hvisible
      · exact heval x hx

/-- The conditions of the accepted sections. -/
theorem conditionsOfSections_accepted (hknown : Known known) : ∀ {sections : List Value}
    (earlier : List String), (∀ s ∈ sections, WellFormedSection s) →
    known.map Prod.fst = earlier ++ sections.flatMap (fun s => (questionsOf s).map idOf) →
    conditionsOfSections validators known earlier.length sections = .ok () →
    BackwardSections earlier sections ∧ ∀ s ∈ sections, Evaluable (conditionOf s) ∧
      ∀ q ∈ questionsOf s, Evaluable (conditionOf q) := by
  intro sections
  induction sections with
  | nil => exact fun _ _ _ _ => ⟨trivial, by simp⟩
  | cons s rest ih =>
    intro earlier hwf hids h
    have hs := hwf s List.mem_cons_self
    obtain ⟨hid, hcondition⟩ := hs.id
    obtain ⟨hquestions, hwfq⟩ := hs.questionsOf
    rw [conditionsOfSections, hid, hcondition, hquestions, ok_bind, ok_bind] at h
    obtain ⟨_, hvisible, h⟩ := bind_eq_ok.1 h
    rw [ok_bind] at h
    obtain ⟨reached, hinner, hrest⟩ := bind_eq_ok.1 h
    rw [List.flatMap_cons] at hids
    obtain ⟨hbackq, hevalq⟩ := conditionsOfQuestions_accepted hknown hwfq hids hinner
    obtain rfl := conditionsOfQuestions_ok hinner
    -- the position of the walk is the number of the questions before it
    have hlength : earlier.length + (questionsOf s).length =
        (earlier ++ (questionsOf s).map idOf).length := by simp
    rw [hlength] at hrest
    obtain ⟨hback, heval⟩ := ih _ (fun s hs => hwf s (List.mem_cons_of_mem _ hs))
      (by simpa using hids) hrest
    refine ⟨⟨fun field hrefers => ?_, hbackq, hback⟩, fun x hx => ?_⟩
    · exact hknown.earlier hids (validateVisibleWhen_refers hvisible hrefers)
    · rcases List.mem_cons.1 hx with rfl | hx
      · exact ⟨validateVisibleWhen_evaluable hknown hvisible, hevalq⟩
      · exact heval x hx

/-- What the interpreters take from an accepted schema. -/
structure Accepted (schema : Value) : Prop where
  sections : itemList schema "sections" = .ok (listOf "sections" schema)
  shape : ∀ s ∈ listOf "sections" schema, WellFormedSection s
  evaluable : ∀ s ∈ listOf "sections" schema, Evaluable (conditionOf s) ∧
    ∀ q ∈ questionsOf s, Evaluable (conditionOf q)
  backward : Backward schema

theorem validateTemplateSchema_accepted {schema : Value}
    (h : validateTemplateSchema validators schema = .ok ()) : Accepted schema := by
  obtain ⟨sections, hhead, h⟩ := bind_eq_ok.1 h
  obtain ⟨known, hsections, hconditions⟩ := bind_eq_ok.1 h
  obtain ⟨hitem, hlist⟩ := schemaHead_ok hhead
  obtain ⟨hknown, hwf, hids⟩ := validateSections_ok known_nil hsections
  have hback := conditionsOfSections_accepted hknown [] hwf hids hconditions
  refine ⟨hlist.symm ▸ hitem, hlist.symm ▸ hwf, hlist.symm ▸ hback.2, ?_⟩
  rw [Backward, hlist]
  exact hback.1

end Conditions

section Interpreters

variable {σ : Type} {validators : Validators}

/-- A condition that is there to evaluate. -/
def Visible (x : Value) : Prop :=
  getOf x "visible_when" = .ok (conditionOf x) ∧ Evaluable (conditionOf x)

/-- **The loop of the interpreters returns** when each visit does, and keeps what a visit keeps. -/
theorem eachVisible_returns (seen : σ → Dict) (visit : Value → σ → Check σ) {P : σ → Prop} :
    ∀ {items : List Value}, (∀ x ∈ items, Visible x) →
    (∀ x ∈ items, ∀ w, P w → ∃ w', visit x w = .ok w' ∧ P w') →
    ∀ w, P w → ∃ w', eachVisible seen visit items w = .ok w' ∧ P w' := by
  intro items
  induction items with
  | nil => exact fun _ _ w hw => ⟨w, rfl, hw⟩
  | cons x rest ih =>
    intro hvisible hvisit w hw
    have hrest := ih (fun x hx => hvisible x (List.mem_cons_of_mem _ hx))
      fun x hx => hvisit x (List.mem_cons_of_mem _ hx)
    obtain ⟨hget, heval⟩ := hvisible x List.mem_cons_self
    obtain ⟨b, hb⟩ := heval (seen w)
    rw [eachVisible, hget, ok_bind, hb, ok_bind]
    cases b with
    | false => exact hrest w hw
    | true =>
      obtain ⟨w', hw', hP⟩ := hvisit x List.mem_cons_self w hw
      simp only [if_true]
      rw [hw', ok_bind]
      exact hrest w' hP

theorem mapM_returns {α β : Type} {f : α → Check β} : ∀ {xs : List α},
    (∀ x ∈ xs, ∃ y, f x = .ok y) → ∃ ys, xs.mapM f = .ok ys := by
  intro xs
  induction xs with
  | nil => exact fun _ => ⟨[], rfl⟩
  | cons x rest ih =>
    intro h
    obtain ⟨y, hy⟩ := h x List.mem_cons_self
    obtain ⟨ys, hys⟩ := ih fun x hx => h x (List.mem_cons_of_mem _ hx)
    refine ⟨y :: ys, ?_⟩
    rw [List.mapM_cons, hy, ok_bind, hys, ok_bind]
    rfl

theorem suppressed_returns {α : Type} {x : Check α} (h : Safe x) : ∃ a, suppressed x = .ok a := by
  rcases h.cases with ⟨a, rfl⟩ | ⟨m, rfl⟩
  · exact ⟨some a, rfl⟩
  · exact ⟨none, rfl⟩

theorem activeQuestion_returns (answers : Dict) {q : Value} (hq : WellFormedQuestion q) (w : Active)
    (hw : ∀ x ∈ w.items, WellFormedQuestion x) :
    ∃ w', activeQuestion validators answers q w = .ok w' ∧ ∀ x ∈ w'.items, WellFormedQuestion x := by
  have hid := hq.id.1
  obtain ⟨d, id, rfl, hlookup, hshape⟩ := hq
  have hitems : ∀ x ∈ w.items ++ [.dict d], WellFormedQuestion x := by
    intro x hx
    rcases List.mem_append.1 hx with hx | hx
    · exact hw x hx
    · obtain rfl := List.mem_singleton.1 hx
      exact ⟨d, id, rfl, hlookup, hshape⟩
  rw [activeQuestion, copyOf, ok_bind, hid, ok_bind]
  cases answers.lookup (idOf (.dict d)) with
  | none => exact ⟨_, rfl, hitems⟩
  | some raw =>
    obtain ⟨a, ha⟩ := suppressed_returns (coerceRaw_safe validators hshape raw)
    dsimp only
    rw [ha, ok_bind]
    cases a with
    | none => exact ⟨_, rfl, hitems⟩
    | some value => exact ⟨_, rfl, hitems⟩

theorem activeSection_returns (answers : Dict) {s : Value} (hs : WellFormedSection s)
    (hvisible : ∀ q ∈ questionsOf s, Visible q) (w : Active)
    (hw : ∀ x ∈ w.items, WellFormedSection x) :
    ∃ w', activeSection validators answers s w = .ok w' ∧ ∀ x ∈ w'.items, WellFormedSection x := by
  obtain ⟨hquestions, hwf⟩ := hs.questionsOf
  obtain ⟨inner, hinner, hitems⟩ :=
    eachVisible_returns Active.effective (activeQuestion validators answers)
      (P := fun w => ∀ x ∈ w.items, WellFormedQuestion x) hvisible
      (fun q hq => activeQuestion_returns answers (hwf q hq)) ⟨w.effective, []⟩ (by simp)
  rw [activeSection, hquestions, ok_bind, hinner, ok_bind]
  obtain ⟨d, id, title, questions, rfl, hid, htitle, -, -⟩ := hs
  refine ⟨_, rfl, fun x hx => ?_⟩
  rcases List.mem_append.1 hx with hx | hx
  · exact hw x hx
  obtain rfl := List.mem_singleton.1 hx
  refine ⟨_, id, title, inner.items, rfl, ?_, ?_, Dict.lookup_set_self d _ _, hitems⟩
  · rw [Dict.lookup_set_ne d _ (by decide)]
    exact hid
  · rw [Dict.lookup_set_ne d _ (by decide)]
    exact htitle

variable {schema : Value}

theorem Accepted.visible (h : Accepted schema) {s : Value} (hs : s ∈ listOf "sections" schema) :
    Visible s ∧ ∀ q ∈ questionsOf s, Visible q := by
  obtain ⟨hevals, hevalq⟩ := h.evaluable s hs
  exact ⟨⟨(h.shape s hs).id.2, hevals⟩, fun q hq =>
    ⟨((h.shape s hs).questionsOf.2 q hq).id.2, hevalq q hq⟩⟩

/-- `get_active_sections` returns, and what it returns is well formed. -/
theorem getActiveSections_returns (h : validateTemplateSchema validators schema = .ok ())
    (answers : Dict) : ∃ sections, getActiveSections validators answers schema = .ok sections ∧
      ∀ s ∈ sections, WellFormedSection s := by
  have hok := validateTemplateSchema_accepted h
  obtain ⟨w, hw, hitems⟩ :=
    eachVisible_returns Active.effective (activeSection validators answers)
      (P := fun w => ∀ x ∈ w.items, WellFormedSection x) (fun s hs => (hok.visible hs).1)
      (fun s hs => activeSection_returns answers (hok.shape s hs) (hok.visible hs).2) ⟨[], []⟩ (by simp)
  rw [getActiveSections, h, ok_bind, hok.sections, ok_bind, hw]
  exact ⟨w.items, rfl, hitems⟩

theorem getActiveQuestions_returns (h : validateTemplateSchema validators schema = .ok ())
    (answers : Dict) : ∃ questions, getActiveQuestions validators answers schema = .ok questions := by
  obtain ⟨sections, hsections, hwf⟩ := getActiveSections_returns h answers
  obtain ⟨questions, hquestions⟩ := mapM_returns (f := fun s => itemList s "questions") fun s hs =>
    ⟨_, (hwf s hs).questionsOf.1⟩
  rw [getActiveQuestions, hsections, ok_bind, hquestions]
  exact ⟨_, rfl⟩

theorem sanitizeQuestion_returns (answers : Dict) (requireComplete : Bool) {q : Value}
    (hq : WellFormedQuestion q) (w : Sanitized) :
    ∃ w', sanitizeQuestion validators answers requireComplete q w = .ok w' := by
  have hid := hq.id.1
  obtain ⟨d, id, rfl, -, hshape⟩ := hq
  rw [sanitizeQuestion, hid, ok_bind, copyOf, ok_bind]
  cases answers.lookup (idOf (.dict d)) with
  | none => exact ⟨_, rfl⟩
  | some raw =>
    dsimp only
    split
    · exact ⟨_, rfl⟩
    · rcases (coerceRaw_safe validators hshape raw).cases with ⟨value, hv⟩ | ⟨m, hm⟩
      · rw [hv]
        exact ⟨_, rfl⟩
      · rw [hm]
        exact ⟨_, rfl⟩

/-- `sanitize_answers` returns the answers, or the field errors. -/
theorem sanitizeAnswers_returns (h : validateTemplateSchema validators schema = .ok ())
    (answers : Dict) (requireComplete : Bool) (u : Unicode) :
    ∃ result, sanitizeAnswers validators answers requireComplete u schema = .ok result := by
  have hok := validateTemplateSchema_accepted h
  have hquestions : ∀ s ∈ listOf "sections" schema, ∀ w, True →
      ∃ w', sanitizeSection validators answers requireComplete s w = .ok w' ∧ True := by
    intro s hs w _
    obtain ⟨hitem, hwf⟩ := (hok.shape s hs).questionsOf
    rw [sanitizeSection, hitem, ok_bind]
    refine eachVisible_returns _ _ (hok.visible hs).2 (fun q hq w _ => ?_) w trivial
    obtain ⟨w', hw'⟩ := sanitizeQuestion_returns answers requireComplete (hwf q hq) w
    exact ⟨w', hw', trivial⟩
  obtain ⟨w, hw, -⟩ := eachVisible_returns Sanitized.answers _
    (fun s hs => (hok.visible hs).1) hquestions ⟨[], []⟩ trivial
  rw [sanitizeAnswers, h, ok_bind, hok.sections, ok_bind, hw]
  exact ⟨_, rfl⟩

theorem optionLabel_returns (str : Value → String) (value : Value) : ∀ {options : List Value},
    (∀ o ∈ options, OptionShape o) → ∃ label, optionLabel str value options = .ok label := by
  intro options
  induction options with
  | nil => exact fun _ => ⟨none, rfl⟩
  | cons o rest ih =>
    intro h
    obtain ⟨d, v, rfl, hv⟩ := h o List.mem_cons_self
    have hrest := ih fun o ho => h o (List.mem_cons_of_mem _ ho)
    rw [optionLabel, getOf, ok_bind]
    split
    · exact ⟨_, rfl⟩
    · exact hrest

theorem formatAnswer_returns (str : Value → String) {question : Dict} (h : QuestionShape question)
    (value : Value) : ∃ text, formatAnswer str question value = .ok text := by
  unfold formatAnswer
  split
  · exact ⟨_, rfl⟩
  · rename_i value _ _ htype
    obtain ⟨options, hlist, hshape⟩ := h.choiceOptions (lookup_of_get htype (by simp))
    obtain ⟨label, hlabel⟩ := optionLabel_returns str value hshape
    rw [hlist, ok_bind, hlabel]
    exact ⟨_, rfl⟩
  · exact ⟨_, rfl⟩
  · exact ⟨_, rfl⟩

theorem formatQuestion_returns (answers : Dict) (str : Value → String) (sectionId sectionTitle : Value)
    {q : Value} (hq : WellFormedQuestion q) :
    ∃ formatted, formatQuestion answers str sectionId sectionTitle q = .ok formatted := by
  have hid := hq.id.1
  obtain ⟨d, id, rfl, -, hshape⟩ := hq
  obtain ⟨l, hl⟩ := hshape.label
  obtain ⟨t, ht⟩ := hshape.type
  rw [formatQuestion, hid, ok_bind]
  cases answers.lookup (idOf (.dict d)) with
  | none => exact ⟨_, rfl⟩
  | some value =>
    obtain ⟨text, htext⟩ := formatAnswer_returns str hshape value
    have hlabel : item (.dict d) "label" = .ok (.str l) := by simp [item, hl]
    have htype : item (.dict d) "type" = .ok (.str t) := by simp [item, ht]
    dsimp only
    rw [hlabel, ok_bind, htype, ok_bind, copyOf, ok_bind, htext]
    exact ⟨_, rfl⟩

/-- `format_answers` returns. -/
theorem formatAnswers_returns (h : validateTemplateSchema validators schema = .ok ()) (answers : Dict)
    (str : Value → String) : ∃ formatted, formatAnswers validators answers str schema = .ok formatted := by
  obtain ⟨sections, hsections, hwf⟩ := getActiveSections_returns h answers
  have hsection : ∀ s ∈ sections, ∃ formatted, formatSection answers str s = .ok formatted := by
    intro s hs
    obtain ⟨hitem, hwfq⟩ := (hwf s hs).questionsOf
    obtain ⟨d, id, title, _, rfl, hid, htitle, -, -⟩ := hwf s hs
    have hsid : item (.dict d) "id" = .ok (.str id) := by simp [item, hid]
    have hstitle : item (.dict d) "title" = .ok (.str title) := by simp [item, htitle]
    obtain ⟨formatted, hf⟩ := mapM_returns fun q hq =>
      formatQuestion_returns answers str (.str id) (.str title) (hwfq q hq)
    rw [formatSection, hsid, ok_bind, hstitle, ok_bind, hitem, ok_bind, hf]
    exact ⟨_, rfl⟩
  obtain ⟨formatted, hformatted⟩ := mapM_returns hsection
  rw [formatAnswers, hsections, ok_bind, hformatted]
  exact ⟨_, rfl⟩

end Interpreters

section Sufficient

/-- The interpreters do not raise because of this schema, and its conditions look back. -/
structure Sufficient (validators : Validators) (schema : Value) : Prop where
  evaluates : ∀ condition ∈ schemaConditions schema, ∀ answers,
    ∃ b, evaluateCondition answers condition = .ok b
  sections : ∀ answers, ∃ sections, getActiveSections validators answers schema = .ok sections
  questions : ∀ answers, ∃ questions, getActiveQuestions validators answers schema = .ok questions
  sanitizes : ∀ answers requireComplete u,
    ∃ result, sanitizeAnswers validators answers requireComplete u schema = .ok result
  formats : ∀ answers str, ∃ formatted, formatAnswers validators answers str schema = .ok formatted
  backward : Backward schema

/-- **An accepted schema is enough for the interpreters.** -/
theorem accepted_sufficient {validators : Validators} {schema : Value}
    (h : validateTemplateSchema validators schema = .ok ()) : Sufficient validators schema := by
  have hok := validateTemplateSchema_accepted h
  refine ⟨fun condition hmem => ?_, fun answers => ?_, getActiveQuestions_returns h,
    sanitizeAnswers_returns h, formatAnswers_returns h, hok.backward⟩
  · obtain ⟨s, hs, hmem⟩ := List.mem_flatMap.1 hmem
    obtain ⟨hevals, hevalq⟩ := hok.evaluable s hs
    rcases List.mem_cons.1 hmem with rfl | hmem
    · exact hevals
    · obtain ⟨q, hq, rfl⟩ := List.mem_map.1 hmem
      exact hevalq q hq
  · obtain ⟨sections, hsections, -⟩ := getActiveSections_returns h answers
    exact ⟨sections, hsections⟩

/-- The validator returns or raises a `ValidationError`, and what it accepts is enough. -/
def ValidatesWell (validators : Validators) (schema : Value) : Prop :=
  ((∃ a, validateTemplateSchema validators schema = .ok a) ∨
      ∃ m, validateTemplateSchema validators schema = .error (.validation m)) ∧
    (validateTemplateSchema validators schema = .ok () → Sufficient validators schema)

/-- **The schema validator is total and sufficient iff it hashes no list and no dictionary.** -/
theorem validatesWell_iff (validators : Validators) (schema : Value) :
    ValidatesWell validators schema ↔ ¬ ReachesUnhashable validators schema := by
  have htotal := (validateTemplateSchema_outcome validators schema).returns_iff
  constructor
  · exact fun h => htotal.1 h.1
  · exact fun h => ⟨htotal.2 h, accepted_sufficient⟩

/-- A question whose type is a list. -/
def listTypeSchema : Value :=
  .dict [("title", .str "Briefing"), ("sections", .list [.dict [("id", .str "geral"),
    ("title", .str "Geral"), ("questions", .list [.dict [("id", .str "nome"), ("label", .str "Nome"),
      ("type", .list [.str "text"])]])]])]

/-- `question_type not in QUESTION_TYPES` hashes the list. -/
theorem list_type_raises : ¬ ∀ validators schema, ValidatesWell validators schema := by
  intro h
  have hraises : ∀ validators, validateTemplateSchema validators listTypeSchema = .error .typeError := by
    intro validators
    rfl
  rcases (h ⟨fun _ => true, fun _ => true⟩ listTypeSchema).1 with ⟨a, ha⟩ | ⟨m, hm⟩
  · rw [hraises] at ha
    cases ha
  · rw [hraises] at hm
    cases hm

end Sufficient

end SheepContabil.SC06.Json
