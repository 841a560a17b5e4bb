import SheepContabil.Spec.Sc06Schema

/-!
# SC-06: what the schema validator raises

* `Outcome`: a check returns or refuses, or it raises a `TypeError` where a predicate says so.
* `validateTemplateSchema_outcome`: the validator raises a `TypeError` exactly where it hashes a list
  or a dictionary, and otherwise nothing but a `ValidationError`.
* `WellFormedSection`: what the validator has checked of a section.
-/

namespace SheepContabil.SC06.Json

open Py

section Outcome

variable {α β : Type}

/-- A check returns or refuses, or it raises a `TypeError` and `reaches` says so. -/
def Outcome (x : Check α) (reaches : Prop) : Prop :=
  match x with
  | .ok _ | .error (.validation _) => ¬ reaches
  | .error .typeError => reaches
  | .error _ => False

/-- A check that raises nothing but a `ValidationError`. -/
abbrev Safe (x : Check α) : Prop := Outcome x False

@[simp] theorem safe_ok (a : α) : Safe (.ok a : Check α) := id
@[simp] theorem safe_pure (a : α) : Safe (pure a : Check α) := id
@[simp] theorem safe_refuse (m : String) : Safe (refuse m : Check α) := id

theorem ok_bind (a : α) (f : α → Check β) : ((.ok a : Check α) >>= f) = f a := rfl

theorem Outcome.congr {x : Check α} {R S : Prop} (h : Outcome x R) (heq : R ↔ S) : Outcome x S := by
  rwa [← propext heq]

/-- **The rule of a sequence**: it reaches what its first step or, past that, its second reaches. -/
theorem Outcome.bind {x : Check α} {f : α → Check β} {R : Prop} {S : α → Prop} (hx : Outcome x R)
    (hf : ∀ a, x = .ok a → Outcome (f a) (S a)) : Outcome (x >>= f) (R ∨ ∃ a, x = .ok a ∧ S a) := by
  cases x with
  | error e =>
    have hno : (R ∨ ∃ a, (.error e : Check α) = .ok a ∧ S a) ↔ R := by simp
    refine Outcome.congr ?_ hno.symm
    cases e <;> exact hx
  | ok a =>
    have hthen : (R ∨ ∃ b, (.ok a : Check α) = .ok b ∧ S b) ↔ S a := by
      constructor
      · rintro (hr | ⟨b, hb, hs⟩)
        · exact absurd hr hx
        · cases hb
          exact hs
      · intro hs
        exact .inr ⟨a, rfl, hs⟩
    exact (hf a rfl).congr hthen.symm

/-- The rule of a sequence whose first step is safe. -/
theorem Outcome.then {x : Check α} {f : α → Check β} {S : α → Prop} (hx : Safe x)
    (hf : ∀ a, x = .ok a → Outcome (f a) (S a)) : Outcome (x >>= f) (∃ a, x = .ok a ∧ S a) :=
  (hx.bind hf).congr (by simp)

/-- The rule of a sequence whose first step only checks. -/
theorem Outcome.after {x : Check Unit} {f : Unit → Check β} {R S : Prop} (hx : Outcome x R)
    (hf : x = .ok () → Outcome (f ()) S) : Outcome (x >>= f) (R ∨ x = .ok () ∧ S) :=
  (hx.bind fun _ => hf).congr
    (or_congr_right ⟨fun ⟨_, h, hs⟩ => ⟨h, hs⟩, fun ⟨h, hs⟩ => ⟨(), h, hs⟩⟩)

theorem Safe.bind {x : Check α} {f : α → Check β} (hx : Safe x) (hf : ∀ a, x = .ok a → Safe (f a)) :
    Safe (x >>= f) :=
  (Outcome.bind hx hf).congr (by simp)

theorem Safe.ite {p : Prop} [Decidable p] {x y : Check α} (hx : Safe x) (hy : Safe y) :
    Safe (if p then x else y) := by
  split
  · exact hx
  · exact hy

/-- A safe check returns or refuses. -/
theorem Safe.cases {x : Check α} (h : Safe x) : (∃ a, x = .ok a) ∨ ∃ m, x = .error (.validation m) := by
  cases x with
  | ok a => exact .inl ⟨a, rfl⟩
  | error e =>
    cases e with
    | validation m => exact .inr ⟨m, rfl⟩
    | typeError => exact h.elim
    | keyError => exact h.elim
    | attributeError => exact h.elim

/-- A check returns or refuses unless it reaches. -/
theorem Outcome.returns_iff {x : Check α} {R : Prop} (h : Outcome x R) :
    ((∃ a, x = .ok a) ∨ ∃ m, x = .error (.validation m)) ↔ ¬ R := by
  cases x with
  | ok a => simpa [Outcome] using h
  | error e =>
    cases e with
    | validation m => simpa [Outcome] using h
    | typeError => simpa [Outcome] using h
    | keyError => exact h.elim
    | attributeError => exact h.elim

end Outcome

section Checks

theorem isIn_outcome (v : Value) (allowed : List String) :
    Outcome (isIn v allowed) (unhashable v = true) := by
  cases v <;> simp [isIn, unhashable, Outcome]

theorem isIn_ok {v : Value} {allowed : List String} (h : isIn v allowed = .ok true) :
    ∃ s, v = .str s ∧ s ∈ allowed := by
  cases v <;> simp_all [isIn, unhashable]

theorem requireMapping_safe (v : Value) (m : String) : Safe (requireMapping v m) := by
  cases v <;> simp [requireMapping]

theorem requireMapping_ok {v : Value} {m : String} {d : Dict} (h : requireMapping v m = .ok d) :
    v = .dict d := by
  cases v <;> simp_all [requireMapping, refuse]

theorem requireList_safe (v : Value) (m : String) : Safe (requireList v m) := by
  cases v <;> simp [requireList]

theorem requireList_ok {v : Value} {m : String} {xs : List Value} (h : requireList v m = .ok xs) :
    v = .list xs := by
  cases v <;> simp_all [requireList, refuse]

theorem requireNonEmptyText_safe (v : Value) (m : String) : Safe (requireNonEmptyText v m) := by
  cases v with
  | str s =>
    simp only [requireNonEmptyText]
    exact Safe.ite (safe_refuse m) (safe_ok _)
  | _ => exact safe_refuse m

theorem requireNonEmptyText_ok {v : Value} {m s : String} (h : requireNonEmptyText v m = .ok s) :
    ∃ t, v = .str t := by
  cases v <;> simp_all [requireNonEmptyText, refuse]

theorem validateOptionalText_safe (d : Dict) (key m : String) : Safe (validateOptionalText d key m) := by
  unfold validateOptionalText
  split <;> simp

theorem validateAllowedKeys_safe (d : Dict) (allowed : List String) (context : String) :
    Safe (validateAllowedKeys d allowed context) :=
  Safe.ite (safe_ok ()) (safe_refuse _)

theorem validateIdentifier_safe (v : Value) (m : String) : Safe (validateIdentifier v m) :=
  Safe.bind (requireNonEmptyText_safe v m) fun _ _ => Safe.ite (safe_pure _) (safe_refuse m)

theorem validateIdentifier_ok {v : Value} {m s : String} (h : validateIdentifier v m = .ok s) :
    v = .str s ∧ s ≠ "" := by
  obtain ⟨t, -, h⟩ := bind_eq_ok.1 h
  split at h
  · rename_i hid
    cases h
    refine ⟨?_, ?_⟩
    · cases v <;> simp_all [Value.str?]
    · rintro rfl
      simp [isIdentifier] at hid
  · cases h

theorem optionalNonNegativeInt_safe (v : Value) (questionId : String) :
    Safe (optionalNonNegativeInt v questionId) := by
  cases v with
  | none => exact safe_ok _
  | int n => exact Safe.ite (safe_refuse _) (safe_ok _)
  | _ => exact safe_refuse _

end Checks

section Questions

theorem validateOption_safe (questionId : String) (values : List String) (raw : Value) :
    Safe (validateOption questionId values raw) := by
  refine Safe.bind (requireMapping_safe _ _) fun option _ => ?_
  refine Safe.bind (validateAllowedKeys_safe _ _ _) fun _ _ => ?_
  refine Safe.bind (requireNonEmptyText_safe _ _) fun value _ => ?_
  refine Safe.ite ?_ (safe_refuse _)
  exact Safe.bind (requireNonEmptyText_safe _ _) fun _ _ => Safe.ite (safe_refuse _) (safe_pure _)

theorem validateOptions_safe (questionId : String) : ∀ (options : List Value) (values : List String),
    Safe (validateOptions questionId options values) := by
  intro options
  induction options with
  | nil => exact fun _ => safe_ok ()
  | cons raw rest ih =>
    intro values
    exact Safe.bind (validateOption_safe questionId values raw) fun value _ => ih (values ++ [value])

theorem validateChoice_safe (question : Dict) (questionId : String) :
    Safe (validateChoice question questionId) := by
  refine Safe.ite ?_ (Safe.ite (safe_refuse _) (safe_ok ()))
  exact Safe.bind (requireList_safe _ _) fun options _ =>
    Safe.ite (safe_refuse _) (validateOptions_safe questionId options [])

theorem validateLengths_safe (question : Dict) (questionId : String) :
    Safe (validateLengths question questionId) := by
  unfold validateLengths
  split
  · exact safe_ok ()
  refine Safe.bind (requireMapping_safe _ _) fun config _ => ?_
  refine Safe.ite (safe_refuse _) (Safe.ite (safe_refuse _) ?_)
  refine Safe.bind (optionalNonNegativeInt_safe _ _) fun minimum _ => ?_
  refine Safe.bind (optionalNonNegativeInt_safe _ _) fun maximum _ => ?_
  split
  · exact Safe.ite (safe_refuse _) (safe_pure ())
  · exact safe_pure ()

theorem validateLabel_safe (question : Dict) (questionId : String) :
    Safe (validateLabel question questionId) :=
  Safe.bind (validateAllowedKeys_safe _ _ _) fun _ _ =>
    Safe.bind (requireNonEmptyText_safe _ _) fun _ _ => safe_pure ()

theorem validateDetails_safe (question : Dict) (questionId : String) :
    Safe (validateDetails question questionId) := by
  refine Safe.ite ?_ (safe_refuse _)
  refine Safe.bind (validateOptionalText_safe _ _ _) fun _ _ => ?_
  refine Safe.bind (validateOptionalText_safe _ _ _) fun _ _ => ?_
  exact Safe.bind (validateChoice_safe question questionId) fun _ _ =>
    validateLengths_safe question questionId

/-- The type is hashed once the keys and the label have passed. -/
theorem validateQuestion_outcome (question : Dict) (questionId : String) :
    Outcome (validateQuestion question questionId)
      (validateLabel question questionId = .ok () ∧ unhashable (Dict.get question "type") = true) := by
  have htype : Outcome (do
      if ← isIn (Dict.get question "type") questionTypes then validateDetails question questionId
      else refuse ("A pergunta \"" ++ questionId ++ "\" possui um tipo não permitido."))
      (unhashable (Dict.get question "type") = true) := by
    refine ((isIn_outcome _ _).bind (S := fun _ => False) fun known _ => ?_).congr (by simp)
    exact Safe.ite (validateDetails_safe question questionId) (safe_refuse _)
  exact (Outcome.after (validateLabel_safe question questionId) fun _ => htype).congr (by simp)

end Questions

section Shape

theorem lookup_of_get {d : Dict} {key : String} {v : Value} (h : Dict.get d key = v) (hv : v ≠ .none) :
    d.lookup key = some v := by
  cases hl : d.lookup key with
  | none => simp [Dict.get, hl] at h; exact absurd h.symm hv
  | some w => simpa [Dict.get, hl] using h

theorem get_of_lookup {d : Dict} {key : String} {v : Value} (h : d.lookup key = some v) :
    Dict.get d key = v := by
  simp [Dict.get, h]

/-- An option of a choice has a text as its value. -/
def OptionShape (option : Value) : Prop :=
  ∃ d v, option = .dict d ∧ d.lookup "value" = some (.str v)

/-- What the interpreters take from a question. -/
structure QuestionShape (question : Dict) : Prop where
  label : ∃ l, question.lookup "label" = some (.str l)
  type : ∃ t, question.lookup "type" = some (.str t)
  options : question.lookup "type" = some (.str "choice") →
    ∃ options, question.lookup "options" = some (.list options) ∧ ∀ o ∈ options, OptionShape o

theorem QuestionShape.choiceOptions {question : Dict} (h : QuestionShape question)
    (htype : question.lookup "type" = some (.str "choice")) :
    ∃ options, Json.choiceOptions question = .ok options ∧ ∀ o ∈ options, OptionShape o := by
  obtain ⟨options, hoptions, hshape⟩ := h.options htype
  exact ⟨options, by simp [Json.choiceOptions, hoptions, iterate], hshape⟩

theorem validateOption_ok {questionId : String} {values : List String} {raw : Value} {value : String}
    (h : validateOption questionId values raw = .ok value) : OptionShape raw := by
  obtain ⟨d, hd, h⟩ := bind_eq_ok.1 h
  obtain ⟨_, _, h⟩ := bind_eq_ok.1 h
  obtain ⟨v, hv, _⟩ := bind_eq_ok.1 h
  obtain ⟨t, ht⟩ := requireNonEmptyText_ok hv
  exact ⟨d, t, requireMapping_ok hd, lookup_of_get ht (by simp)⟩

theorem validateOptions_ok {questionId : String} {options : List Value} {values : List String}
    (h : validateOptions questionId options values = .ok ()) : ∀ o ∈ options, OptionShape o := by
  induction options generalizing values with
  | nil => exact fun o ho => absurd ho List.not_mem_nil
  | cons raw rest ih =>
    obtain ⟨value, hvalue, hrest⟩ := bind_eq_ok.1 h
    intro o ho
    rcases List.mem_cons.1 ho with rfl | ho
    · exact validateOption_ok hvalue
    · exact ih hrest o ho

theorem validateChoice_ok {question : Dict} {questionId : String}
    (h : validateChoice question questionId = .ok ())
    (htype : question.lookup "type" = some (.str "choice")) :
    ∃ options, question.lookup "options" = some (.list options) ∧ ∀ o ∈ options, OptionShape o := by
  have hchoice : (Dict.get question "type").str? = some "choice" := by
    rw [get_of_lookup htype]
    rfl
  rw [validateChoice, if_pos hchoice] at h
  obtain ⟨options, hoptions, h⟩ := bind_eq_ok.1 h
  refine ⟨options, lookup_of_get (requireList_ok hoptions) (by simp), ?_⟩
  split at h
  · cases h
  · exact validateOptions_ok h

theorem validateQuestion_ok {question : Dict} {questionId : String}
    (h : validateQuestion question questionId = .ok ()) : QuestionShape question := by
  obtain ⟨_, hlabel, h⟩ := bind_eq_ok.1 h
  obtain ⟨known, hknown, h⟩ := bind_eq_ok.1 h
  have hlabel' : ∃ l, question.lookup "label" = some (.str l) := by
    obtain ⟨_, _, hlabel⟩ := bind_eq_ok.1 hlabel
    obtain ⟨l, hl, _⟩ := bind_eq_ok.1 hlabel
    obtain ⟨t, ht⟩ := requireNonEmptyText_ok hl
    exact ⟨t, lookup_of_get ht (by simp)⟩
  cases known with
  | false => cases h
  | true =>
    obtain ⟨t, ht, _⟩ := isIn_ok hknown
    refine ⟨hlabel', ⟨t, lookup_of_get ht (by simp)⟩, fun htype => ?_⟩
    simp only [if_true] at h
    unfold validateDetails at h
    split at h
    · obtain ⟨_, _, h⟩ := bind_eq_ok.1 h
      obtain ⟨_, _, h⟩ := bind_eq_ok.1 h
      obtain ⟨_, hchoice, _⟩ := bind_eq_ok.1 h
      exact validateChoice_ok hchoice htype
    · cases h

/-- The values of the options are texts. -/
theorem optionValues_ok : ∀ {options : List Value}, (∀ o ∈ options, OptionShape o) →
    ∃ values, options.mapM optionValue = .ok values := by
  intro options
  induction options with
  | nil => exact fun _ => ⟨[], rfl⟩
  | cons o rest ih =>
    intro h
    obtain ⟨d, v, rfl, hv⟩ := h o List.mem_cons_self
    obtain ⟨values, hvalues⟩ := ih fun o ho => h o (List.mem_cons_of_mem _ ho)
    refine ⟨.str v :: values, ?_⟩
    have hvalue : optionValue (.dict d) = .ok (.str v) := by simp [optionValue, hv, unhashable]
    simp [List.mapM_cons, hvalue, hvalues, Bind.bind, Except.bind, pure, Except.pure]

theorem checkLengths_safe (question : Dict) (value : String) : Safe (checkLengths question value) := by
  unfold checkLengths
  split
  · exact Safe.ite (safe_refuse _) (Safe.ite (safe_refuse _) (safe_ok _))
  · exact safe_ok _

theorem coerceBoolean_safe (raw : Value) : Safe (coerceBoolean raw) := by
  cases raw with
  | bool b => exact safe_ok _
  | int n => exact Safe.ite (safe_ok _) (Safe.ite (safe_ok _) (safe_refuse _))
  | str s => exact Safe.ite (safe_ok _) (Safe.ite (safe_ok _) (safe_refuse _))
  | _ => exact safe_refuse _

variable (validators : Validators)

/-- The answer of an accepted question is coerced or refused. -/
theorem coerceRaw_safe {question : Dict} (h : QuestionShape question) (raw : Value) :
    Safe (coerceRaw validators question raw) := by
  obtain ⟨t, ht⟩ := h.type
  unfold coerceRaw
  rw [ht]
  split
  · rename_i hnone
    cases hnone
  · exact coerceBoolean_safe raw
  rename_i _ questionType _ htype
  cases htype
  cases raw with
  | str s =>
    dsimp only
    split
    · rename_i hchoice
      cases hchoice
      -- a choice that was accepted has a list of options with text values
      obtain ⟨options, hlist, hshape⟩ := h.choiceOptions ht
      obtain ⟨values, hvalues⟩ := optionValues_ok hshape
      rw [hlist]
      refine Safe.bind (safe_ok options) fun _ heq => ?_
      cases heq
      rw [hvalues]
      refine Safe.bind (safe_ok values) fun _ _ => ?_
      exact Safe.ite (checkLengths_safe _ _) (safe_refuse _)
    · exact Safe.ite (checkLengths_safe _ _) (safe_refuse _)
    · exact Safe.ite (checkLengths_safe _ _) (safe_refuse _)
    · exact checkLengths_safe _ _
  | _ => exact safe_refuse _

theorem validateConditionValue_safe {question : Dict} (h : QuestionShape question) (value : Value)
    (context : String) : Safe (validateConditionValue validators question value context) := by
  obtain ⟨t, ht⟩ := h.type
  unfold validateConditionValue
  rw [ht]
  split
  · rename_i hnone
    cases hnone
  · cases value with
    | bool b => exact safe_ok ()
    | _ => exact safe_refuse _
  cases value with
  | str s =>
    dsimp only
    rcases (coerceRaw_safe validators h (.str s)).cases with ⟨normalized, hn⟩ | ⟨m, hm⟩
    · rw [hn]
      exact Safe.ite (safe_ok ()) (safe_refuse _)
    · rw [hm]
      exact safe_refuse _
  | _ => exact safe_refuse _

end Shape

section Conditions

/-- The questions a condition may refer to, each at its place. -/
structure Known (known : Definitions) : Prop where
  shape : ∀ {field : String} {position : ℕ} {question : Dict},
    known.lookup field = some (position, question) → QuestionShape question
  place : ∀ {field : String} {position : ℕ} {question : Dict},
    known.lookup field = some (position, question) → (known.map Prod.fst)[position]? = some field
  named : ∀ field ∈ known.map Prod.fst, field ≠ ""

variable {validators : Validators} {known : Definitions} {before : ℕ} {context : String}

theorem validateValues_safe {question : Dict} (h : QuestionShape question) (values : List Value) :
    Safe (validateValues validators context question values) := by
  induction values with
  | nil => exact safe_ok ()
  | cons v rest ih =>
    exact Safe.bind (validateConditionValue_safe validators h v context) fun _ _ => ih

theorem validateLeaf_safe (hknown : Known known) (node : Dict) (operator : Value) :
    Safe (validateLeaf validators known before context node operator) := by
  refine Safe.bind (validateAllowedKeys_safe _ _ _) fun _ _ => ?_
  split
  · exact safe_refuse _
  split
  · exact safe_refuse _
  rename_i hquestion
  have hshape := hknown.shape hquestion
  refine Safe.ite (safe_refuse _) ?_
  split
  · exact safe_refuse _
  refine Safe.ite ?_ (validateConditionValue_safe validators hshape _ context)
  exact Safe.bind (requireList_safe _ _) fun values _ =>
    Safe.ite (safe_refuse _) (validateValues_safe hshape values)

theorem compositeChildren_safe (node : Dict) : Safe (compositeChildren context node) := by
  refine Safe.bind (validateAllowedKeys_safe _ _ _) fun _ _ => ?_
  exact Safe.bind (requireList_safe _ _) fun _ _ => Safe.ite (safe_refuse _) (safe_pure _)

theorem each_outcome {check : Value → Check Unit} {reaches : Value → Prop}
    (h : ∀ v, Outcome (check v) (reaches v)) (values : List Value) :
    Outcome (each check values) (EachReaches check reaches values) := by
  induction values with
  | nil => exact safe_ok ()
  | cons v rest ih =>
    exact (h v).after fun _ => ih

/-- **A condition**: a composite reaches what its children reach, and a leaf nothing. -/
theorem validateCondition_outcome (hknown : Known known) : ∀ (levels : ℕ) (condition : Value),
    Outcome (validateCondition validators known before context levels condition)
      (ConditionReaches validators known before context levels condition) := by
  intro levels
  induction levels with
  | zero => exact fun _ => safe_refuse _
  | succ levels ih =>
    intro condition
    -- `operator in COMPOSITE_OPERATORS` hashes the operator before anything else is asked
    let reaches (node : Dict) : Prop := unhashable (Dict.get node "operator") = true ∨
      isIn (Dict.get node "operator") compositeOperators = .ok true ∧
      ∃ children, compositeChildren context node = .ok children ∧
        EachReaches (validateCondition validators known before context levels)
          (ConditionReaches validators known before context levels) children
    have hnode : Outcome (validateCondition validators known before context (levels + 1) condition)
        (∃ node, requireMapping condition ("A condição de " ++ context ++ " deve ser um objeto JSON.") =
          .ok node ∧ reaches node) := by
      refine Outcome.then (requireMapping_safe _ _) fun node _ => ?_
      refine ((isIn_outcome (Dict.get node "operator") compositeOperators).bind
        (S := fun composite => composite = true ∧
          ∃ children, compositeChildren context node = .ok children ∧
            EachReaches (validateCondition validators known before context levels)
              (ConditionReaches validators known before context levels) children)
        fun composite hcomposite => ?_).congr ?_
      · cases composite with
        | true =>
          refine Outcome.congr (Outcome.then (compositeChildren_safe node) fun children _ =>
            each_outcome ih children) ?_
          simp
        | false =>
          -- the operator has just been hashed
          have hhash : unhashable (Dict.get node "operator") = false := by
            cases hv : Dict.get node "operator" <;> simp_all [isIn, unhashable]
          have hleaf := isIn_outcome (Dict.get node "operator") leafOperators
          rw [hhash] at hleaf
          refine Outcome.congr (R := False) (Safe.bind (hleaf.congr (by simp)) fun leaf _ => ?_) (by simp)
          exact Safe.ite (validateLeaf_safe hknown node _) (safe_refuse _)
      · constructor
        · rintro (hu | ⟨composite, hok, rfl, hrest⟩)
          · exact .inl hu
          · exact .inr ⟨hok, hrest⟩
        · rintro (hu | ⟨hok, hrest⟩)
          · exact .inl hu
          · exact .inr ⟨true, hok, rfl, hrest⟩
    refine hnode.congr ?_
    constructor
    · rintro ⟨node, hmapping, hreach⟩
      exact ⟨node, requireMapping_ok hmapping, hreach⟩
    · rintro ⟨node, rfl, hreach⟩
      exact ⟨node, rfl, hreach⟩

theorem conditionReaches_none (levels : ℕ) :
    ¬ ConditionReaches validators known before context levels .none := by
  cases levels with
  | zero => exact id
  | succ levels =>
    rintro ⟨node, hnode, -⟩
    cases hnode

theorem validateVisibleWhen_outcome (hknown : Known known) (condition : Value) :
    Outcome (validateVisibleWhen validators known before context condition)
      (ConditionReaches validators known before context 10 condition) := by
  unfold validateVisibleWhen
  split
  · exact conditionReaches_none 10
  · exact validateCondition_outcome hknown 10 _

end Conditions

section Walk

variable {validators : Validators}

/-- An accepted question. -/
def WellFormedQuestion (v : Value) : Prop :=
  ∃ d id, v = .dict d ∧ d.lookup "id" = some (.str id) ∧ QuestionShape d

/-- An accepted section. -/
def WellFormedSection (v : Value) : Prop :=
  ∃ d id title questions, v = .dict d ∧ d.lookup "id" = some (.str id) ∧
    d.lookup "title" = some (.str title) ∧ d.lookup "questions" = some (.list questions) ∧
    ∀ q ∈ questions, WellFormedQuestion q

theorem WellFormedSection.questionsOf {s : Value} (h : WellFormedSection s) :
    itemList s "questions" = .ok (questionsOf s) ∧ ∀ q ∈ questionsOf s, WellFormedQuestion q := by
  obtain ⟨d, _, _, questions, rfl, -, -, hquestions, hwf⟩ := h
  have heq : Json.questionsOf (.dict d) = questions := by
    simp [Json.questionsOf, listOf, get_of_lookup hquestions]
  rw [heq]
  exact ⟨by simp [itemList, item, hquestions, iterate, Bind.bind, Except.bind], hwf⟩

theorem WellFormedQuestion.id {q : Value} (h : WellFormedQuestion q) :
    itemText q "id" = .ok (idOf q) ∧ getOf q "visible_when" = .ok (conditionOf q) := by
  obtain ⟨d, id, rfl, hid, -⟩ := h
  refine ⟨?_, rfl⟩
  simp [itemText, item, hid, idOf, get_of_lookup hid, Bind.bind, Except.bind, pure, Except.pure]

theorem WellFormedSection.id {s : Value} (h : WellFormedSection s) :
    itemText s "id" = .ok (idOf s) ∧ getOf s "visible_when" = .ok (conditionOf s) := by
  obtain ⟨d, id, _, _, rfl, hid, -⟩ := h
  refine ⟨?_, rfl⟩
  simp [itemText, item, hid, idOf, get_of_lookup hid, Bind.bind, Except.bind, pure, Except.pure]

theorem questionHead_safe (sectionId : String) (known : Definitions) (raw : Value) :
    Safe (questionHead sectionId known raw) := by
  refine Safe.bind (requireMapping_safe _ _) fun question _ => ?_
  exact Safe.bind (validateIdentifier_safe _ _) fun _ _ => Safe.ite (safe_refuse _) (safe_pure _)

theorem questionHead_ok {sectionId : String} {known : Definitions} {raw : Value}
    {head : String × Dict} (h : questionHead sectionId known raw = .ok head) :
    raw = .dict head.2 ∧ head.2.lookup "id" = some (.str head.1) ∧ head.1 ≠ "" := by
  obtain ⟨question, hq, h⟩ := bind_eq_ok.1 h
  obtain ⟨id, hid, h⟩ := bind_eq_ok.1 h
  split at h
  · cases h
  · cases h
    obtain ⟨hget, hne⟩ := validateIdentifier_ok hid
    exact ⟨requireMapping_ok hq, lookup_of_get hget (by simp), hne⟩

/-- An accepted question joins the known ones. -/
theorem Known.snoc {known : Definitions} (h : Known known) {id : String} {question : Dict}
    (hne : id ≠ "") (hshape : QuestionShape question) : Known (known ++ [(id, known.length, question)]) := by
  -- a definition is an earlier one or the one just added
  have hcases : ∀ {field position q},
      (known ++ [(id, known.length, question)]).lookup field = some (position, q) →
      known.lookup field = some (position, q) ∨
        field = id ∧ position = known.length ∧ q = question := by
    intro field position q hl
    rw [List.lookup_append] at hl
    cases hk : known.lookup field with
    | some x =>
      rw [hk] at hl
      exact .inl (by simpa using hl)
    | none =>
      rw [hk] at hl
      by_cases hf : field = id
      · subst hf
        simp [] at hl
        exact .inr ⟨rfl, hl.1.symm, hl.2.symm⟩
      · have hother : (field == id) = false := by simpa using hf
        simp [List.lookup_cons, List.lookup_nil, hother] at hl
  refine ⟨fun hl => ?_, fun hl => ?_, fun field hfield => ?_⟩
  · rcases hcases hl with hl | ⟨-, -, rfl⟩
    · exact h.shape hl
    · exact hshape
  · rcases hcases hl with hl | ⟨rfl, rfl, -⟩
    · have hp := h.place hl
      rw [List.map_append, List.getElem?_append_left]
      · exact hp
      · exact (List.getElem?_eq_some_iff.1 hp).1
    · simp
  · rw [List.map_append, List.mem_append] at hfield
    rcases hfield with hfield | hfield
    · exact h.named field hfield
    · obtain rfl : field = id := by simpa using hfield
      exact hne

/-- What the questions of a section have added to the known ones. -/
theorem validateQuestions_ok {sectionId : String} : ∀ {questions : List Value}
    {known extended : Definitions}, Known known →
    validateQuestions sectionId questions known = .ok extended →
    Known extended ∧ (∀ q ∈ questions, WellFormedQuestion q) ∧
      extended.map Prod.fst = known.map Prod.fst ++ questions.map idOf := by
  intro questions
  induction questions with
  | nil =>
    intro known extended hknown h
    cases h
    exact ⟨hknown, by simp, by simp⟩
  | cons raw rest ih =>
    intro known extended hknown h
    obtain ⟨head, hhead, h⟩ := bind_eq_ok.1 h
    obtain ⟨_, hquestion, h⟩ := bind_eq_ok.1 h
    obtain ⟨hraw, hid, hne⟩ := questionHead_ok hhead
    have hshape := validateQuestion_ok hquestion
    obtain ⟨hext, hrest, hids⟩ := ih (hknown.snoc hne hshape) h
    have hidOf : idOf raw = head.1 := by simp [hraw, idOf, get_of_lookup hid]
    refine ⟨hext, fun q hq => ?_, by simp [hids, hidOf]⟩
    rcases List.mem_cons.1 hq with rfl | hq
    · exact ⟨head.2, head.1, hraw, hid, hshape⟩
    · exact hrest q hq

theorem validateQuestions_outcome (sectionId : String) : ∀ (questions : List Value)
    (known : Definitions), Outcome (validateQuestions sectionId questions known)
      (QuestionsReach sectionId questions known) := by
  intro questions
  induction questions with
  | nil => exact fun known => safe_ok known
  | cons raw rest ih =>
    intro known
    refine Outcome.then (questionHead_safe sectionId known raw) fun head _ => ?_
    exact (validateQuestion_outcome head.2 head.1).after fun _ => ih _

theorem sectionHead_safe (index : ℕ) (ids : List String) (raw : Value) :
    Safe (sectionHead index ids raw) := by
  refine Safe.bind (requireMapping_safe _ _) fun s _ => ?_
  refine Safe.bind (validateAllowedKeys_safe _ _ _) fun _ _ => ?_
  refine Safe.bind (validateIdentifier_safe _ _) fun sectionId _ => ?_
  refine Safe.ite (safe_refuse _) ?_
  refine Safe.bind (requireNonEmptyText_safe _ _) fun _ _ => ?_
  refine Safe.bind (validateOptionalText_safe _ _ _) fun _ _ => ?_
  exact Safe.bind (requireList_safe _ _) fun _ _ => Safe.ite (safe_refuse _) (safe_pure _)

theorem sectionHead_ok {index : ℕ} {ids : List String} {raw : Value}
    {head : String × List Value} (h : sectionHead index ids raw = .ok head) :
    ∃ d title, raw = .dict d ∧ d.lookup "id" = some (.str head.1) ∧
      d.lookup "title" = some (.str title) ∧ d.lookup "questions" = some (.list head.2) := by
  obtain ⟨d, hd, h⟩ := bind_eq_ok.1 h
  obtain ⟨_, _, h⟩ := bind_eq_ok.1 h
  obtain ⟨id, hid, h⟩ := bind_eq_ok.1 h
  split at h
  · cases h
  obtain ⟨title, htitle, h⟩ := bind_eq_ok.1 h
  obtain ⟨_, _, h⟩ := bind_eq_ok.1 h
  obtain ⟨questions, hquestions, h⟩ := bind_eq_ok.1 h
  split at h
  · cases h
  cases h
  obtain ⟨t, ht⟩ := requireNonEmptyText_ok htitle
  exact ⟨d, t, requireMapping_ok hd, lookup_of_get (validateIdentifier_ok hid).1 (by simp),
    lookup_of_get ht (by simp), lookup_of_get (requireList_ok hquestions) (by simp)⟩

/-- What the sections have added to the known questions. -/
theorem validateSections_ok : ∀ {sections : List Value} {index : ℕ} {ids : List String}
    {known extended : Definitions}, Known known →
    validateSections index sections ids known = .ok extended →
    Known extended ∧ (∀ s ∈ sections, WellFormedSection s) ∧
      extended.map Prod.fst =
        known.map Prod.fst ++ sections.flatMap fun s => (questionsOf s).map idOf := by
  intro sections
  induction sections with
  | nil =>
    intro index ids known extended hknown h
    cases h
    exact ⟨hknown, by simp, by simp⟩
  | cons raw rest ih =>
    intro index ids known extended hknown h
    obtain ⟨head, hhead, h⟩ := bind_eq_ok.1 h
    obtain ⟨middle, hmiddle, hsections⟩ := bind_eq_ok.1 h
    obtain ⟨d, title, rfl, hid, htitle, hquestions⟩ := sectionHead_ok hhead
    obtain ⟨hmid, hwf, hmids⟩ := validateQuestions_ok hknown hmiddle
    obtain ⟨hext, hrest, hids⟩ := ih hmid hsections
    have heq : questionsOf (.dict d) = head.2 := by
      simp [questionsOf, listOf, get_of_lookup hquestions]
    refine ⟨hext, fun s hs => ?_, by simp [hids, hmids, heq]⟩
    rcases List.mem_cons.1 hs with rfl | hs
    · exact ⟨d, head.1, title, head.2, rfl, hid, htitle, hquestions, hwf⟩
    · exact hrest s hs

theorem validateSections_outcome : ∀ (sections : List Value) (index : ℕ) (ids : List String)
    (known : Definitions), Outcome (validateSections index sections ids known)
      (SectionsReach index sections ids known) := by
  intro sections
  induction sections with
  | nil => exact fun _ _ known => safe_ok known
  | cons raw rest ih =>
    intro index ids known
    refine Outcome.then (sectionHead_safe index ids raw) fun head _ => ?_
    exact (validateQuestions_outcome head.1 head.2 known).bind fun extended _ => ih _ _ extended

end Walk

section Second

variable {validators : Validators} {known : Definitions}

theorem conditionsOfQuestions_outcome (hknown : Known known) : ∀ {questions : List Value},
    (∀ q ∈ questions, WellFormedQuestion q) → ∀ (position : ℕ),
    Outcome (conditionsOfQuestions validators known position questions)
      (QuestionConditionsReach validators known position questions) := by
  intro questions
  induction questions with
  | nil => exact fun _ position => safe_ok position
  | cons q rest ih =>
    intro hwf position
    obtain ⟨hid, hcondition⟩ := (hwf q List.mem_cons_self).id
    rw [conditionsOfQuestions, hid, hcondition]
    exact (validateVisibleWhen_outcome hknown (conditionOf q)).after fun _ =>
      ih (fun q hq => hwf q (List.mem_cons_of_mem _ hq)) (position + 1)

theorem conditionsOfQuestions_ok : ∀ {questions : List Value} {position reached : ℕ},
    conditionsOfQuestions validators known position questions = .ok reached →
    reached = position + questions.length := by
  intro questions
  induction questions with
  | nil =>
    intro position reached h
    cases h
    simp
  | cons q rest ih =>
    intro position reached h
    obtain ⟨_, _, h⟩ := bind_eq_ok.1 h
    obtain ⟨_, _, h⟩ := bind_eq_ok.1 h
    obtain ⟨_, _, h⟩ := bind_eq_ok.1 h
    have hrest := ih h
    simp only [List.length_cons]
    omega

theorem conditionsOfSections_outcome (hknown : Known known) : ∀ {sections : List Value},
    (∀ s ∈ sections, WellFormedSection s) → ∀ (position : ℕ),
    Outcome (conditionsOfSections validators known position sections)
      (SectionConditionsReach validators known position sections) := by
  intro sections
  induction sections with
  | nil => exact fun _ position => safe_ok ()
  | cons s rest ih =>
    intro hwf position
    have hs := hwf s List.mem_cons_self
    obtain ⟨hid, hcondition⟩ := hs.id
    obtain ⟨hquestions, hwfq⟩ := hs.questionsOf
    rw [conditionsOfSections, hid, hcondition, hquestions]
    refine (validateVisibleWhen_outcome hknown (conditionOf s)).after fun _ => ?_
    refine Outcome.congr ((conditionsOfQuestions_outcome hknown hwfq position).bind fun reached _ =>
      ih (fun s hs => hwf s (List.mem_cons_of_mem _ hs)) reached) (or_congr_right ?_)
    constructor
    · rintro ⟨reached, hreached, hrest⟩
      obtain rfl := conditionsOfQuestions_ok hreached
      exact ⟨hreached, hrest⟩
    · rintro ⟨hreached, hrest⟩
      exact ⟨_, hreached, hrest⟩

theorem schemaHead_safe (schema : Value) : Safe (schemaHead schema) := by
  refine Safe.bind (requireMapping_safe _ _) fun root _ => ?_
  refine Safe.bind (validateAllowedKeys_safe _ _ _) fun _ _ => ?_
  refine Safe.bind (requireNonEmptyText_safe _ _) fun _ _ => ?_
  refine Safe.bind (validateOptionalText_safe _ _ _) fun _ _ => ?_
  exact Safe.bind (requireList_safe _ _) fun _ _ => Safe.ite (safe_refuse _) (safe_pure _)

theorem schemaHead_ok {schema : Value} {sections : List Value} (h : schemaHead schema = .ok sections) :
    itemList schema "sections" = .ok sections ∧ listOf "sections" schema = sections := by
  obtain ⟨root, hroot, h⟩ := bind_eq_ok.1 h
  obtain ⟨_, _, h⟩ := bind_eq_ok.1 h
  obtain ⟨_, _, h⟩ := bind_eq_ok.1 h
  obtain ⟨_, _, h⟩ := bind_eq_ok.1 h
  obtain ⟨xs, hxs, h⟩ := bind_eq_ok.1 h
  split at h
  · cases h
  cases h
  obtain rfl := requireMapping_ok hroot
  have hget := requireList_ok hxs
  have hl := lookup_of_get hget (by simp)
  constructor
  · simp [itemList, item, hl, iterate, Bind.bind, Except.bind]
  · simp [listOf, hget]

theorem known_nil : Known [] where
  shape h := by cases h
  place h := by cases h
  named := by simp

/-- **What the validator raises**: a `ValidationError`, or a `TypeError` where it hashes a value
without a hash. -/
theorem validateTemplateSchema_outcome (validators : Validators) (schema : Value) :
    Outcome (validateTemplateSchema validators schema) (ReachesUnhashable validators schema) := by
  refine Outcome.then (schemaHead_safe schema) fun sections _ => ?_
  refine (validateSections_outcome sections 1 [] []).bind fun known hknown => ?_
  obtain ⟨hok, hwf, -⟩ := validateSections_ok known_nil hknown
  exact conditionsOfSections_outcome hok hwf 0

end Second

end SheepContabil.SC06.Json
