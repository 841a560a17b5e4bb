import SheepContabil.Proof.Sc06Conditions
import SheepContabil.Spec.Sc06Answers

/-!
# SC-06: what a walk over a schema shows

Every path of the server walks the sections and questions of an accepted schema, keeps the answers
of the questions it shows, and decides the next ones on them. A condition only looks back, so what
a walk shows is the one fixed point of a filter.

* `shown`: the questions of a walk, from the answer each one gives.
* `shown_fixed`, `shown_unique`: they are the questions whose conditions hold of their own answers,
  and no other list is.
* `sections_foldl`: a walk with any state is a fold over the questions it shows.
-/

namespace SheepContabil.SC06

/-- A question where it stands: its section and the condition of the section. -/
structure Placed where
  sectionId : Text
  sectionTitle : Text
  guard : Option Condition
  question : Question

def Section.place (s : Section) (q : Question) : Placed := ⟨s.id, s.title, s.visibleWhen, q⟩

def Section.placed (s : Section) : List Placed := s.questions.map s.place

def Schema.placed (schema : Schema) : List Placed := schema.sections.flatMap Section.placed

/-- The conditions of the section and of the question hold. -/
def Placed.visible (answers : List (QuestionId × Answer)) (p : Placed) : Bool :=
  p.guard.all (evaluateCondition answers) && p.question.visibleWhen.all (evaluateCondition answers)

def Placed.comparisons (p : Placed) : List (QuestionId × Answer) :=
  optionalComparisons p.guard ++ optionalComparisons p.question.visibleWhen

/-- The answers of some questions, each with the answer it gives. -/
def answersOf (answerOf : Question → Option Answer) (placed : List Placed) :
    List (QuestionId × Answer) :=
  placed.flatMap fun p => entry p.question (answerOf p.question)

/-- One question of a walk. -/
def showNext (answerOf : Question → Option Answer) (done : List Placed) (p : Placed) : List Placed :=
  if p.visible (answersOf answerOf done) then done ++ [p] else done

/-- The questions that a walk shows. -/
def shown (answerOf : Question → Option Answer) (schema : Schema) : List Placed :=
  schema.placed.foldl (showNext answerOf) []

/-- After the questions `before`, every condition looks back and every question is new. -/
def Backward (before : List QuestionId) : List Placed → Prop
  | [] => True
  | p :: rest => (∀ c ∈ p.comparisons, c.1 ∈ before) ∧ p.question.id ∉ before ∧
      Backward (before ++ [p.question.id]) rest

section Conditions

variable {a b : List (QuestionId × Answer)} {truth truth' : Comparing}

theorem holds_optional {condition : Option Condition}
    (h : ∀ c ∈ optionalComparisons condition, truth c.1 c.2 = truth' c.1 c.2) :
    condition.all (Condition.holds truth) = condition.all (Condition.holds truth') := by
  cases condition with
  | none => rfl
  | some c => exact holds_congr c h

/-- The conditions of the section and of the question, from the truth of their comparisons. -/
def Placed.holds (truth : Comparing) (p : Placed) : Bool :=
  p.guard.all (Condition.holds truth) && p.question.visibleWhen.all (Condition.holds truth)

theorem Placed.holds_congr {p : Placed} (h : ∀ c ∈ p.comparisons, truth c.1 c.2 = truth' c.1 c.2) :
    p.holds truth = p.holds truth' := by
  unfold Placed.holds
  rw [holds_optional fun c hc => h c (List.mem_append_left _ hc),
    holds_optional fun c hc => h c (List.mem_append_right _ hc)]

theorem Placed.visible_holds (answers : List (QuestionId × Answer)) (p : Placed) :
    p.visible answers = p.holds (comparing answers) := by
  have heval : evaluateCondition answers = Condition.holds (comparing answers) :=
    funext (evaluateCondition_holds answers)
  rw [Placed.visible, Placed.holds, heval]

theorem evaluate_optional {condition : Option Condition}
    (h : ∀ c ∈ optionalComparisons condition, a.lookup c.1 = b.lookup c.1) :
    condition.all (evaluateCondition a) = condition.all (evaluateCondition b) := by
  rw [funext (evaluateCondition_holds a), funext (evaluateCondition_holds b)]
  exact holds_optional fun c hc => by rw [comparing, comparing, h c hc]

theorem Placed.visible_agree {p : Placed} (h : ∀ c ∈ p.comparisons, a.lookup c.1 = b.lookup c.1) :
    p.visible a = p.visible b := by
  rw [Placed.visible_holds, Placed.visible_holds]
  exact Placed.holds_congr fun c hc => by rw [comparing, comparing, h c hc]

end Conditions

section FixedPoint

variable {f g : Question → Option Answer} {before : List QuestionId} {p : Placed}
  {rest placed : List Placed}

theorem answersOf_append (f : Question → Option Answer) (xs ys : List Placed) :
    answersOf f (xs ++ ys) = answersOf f xs ++ answersOf f ys := by
  simp [answersOf]

theorem mem_answersOf {x : QuestionId × Answer} :
    x ∈ answersOf f placed ↔ ∃ p ∈ placed, p.question.id = x.1 ∧ f p.question = some x.2 := by
  unfold answersOf entry
  rw [List.mem_flatMap]
  constructor
  · rintro ⟨p, hp, hx⟩
    obtain ⟨a, ha, rfl⟩ := List.mem_map.mp hx
    exact ⟨p, hp, rfl, by simpa using ha⟩
  · rintro ⟨p, hp, hid, hf⟩
    exact ⟨p, hp, by rw [hf, hid]; simp⟩

theorem answersOf_fresh {field : QuestionId} (h : ∀ p ∈ placed, p.question.id ≠ field) :
    (answersOf f placed).lookup field = none := by
  refine lookup_fresh fun x hx heq => ?_
  obtain ⟨p, hp, hid, -⟩ := mem_answersOf.mp hx
  exact h p hp (hid.trans heq)

theorem answersOf_congr (h : ∀ p ∈ placed, f p.question = g p.question) :
    answersOf f placed = answersOf g placed := by
  unfold answersOf
  rw [List.flatMap_def, List.flatMap_def, List.map_congr_left fun p hp => by rw [h p hp]]

/-- The questions to come are none of those before. -/
theorem Backward.fresh (h : Backward before placed) : ∀ p ∈ placed, p.question.id ∉ before := by
  induction placed generalizing before with
  | nil => simp
  | cons p rest ih =>
    intro q hq
    rcases List.mem_cons.mp hq with rfl | hq
    · exact h.2.1
    · exact fun hin => ih h.2.2 q hq (List.mem_append_left _ hin)

theorem Backward.nodup (h : Backward before placed) : (placed.map (·.question.id)).Nodup := by
  induction placed generalizing before with
  | nil => simp
  | cons p rest ih =>
    rw [List.map_cons, List.nodup_cons]
    refine ⟨fun hin => ?_, ih h.2.2⟩
    obtain ⟨q, hq, hid⟩ := List.mem_map.mp hin
    exact Backward.fresh h.2.2 q hq (by rw [hid]; simp)

theorem Backward.append {tail : List Placed} (h : Backward before (placed ++ tail)) :
    Backward (before ++ placed.map (·.question.id)) tail := by
  induction placed generalizing before with
  | nil => simpa using h
  | cons p rest ih => simpa using ih h.2.2

/-- The questions to come do not change whether this one is visible. -/
theorem Backward.visible_stable (h : Backward before (p :: rest)) {later : List Placed}
    (hlater : ∀ q ∈ later, q ∈ p :: rest) (done : List Placed) :
    p.visible (answersOf f (done ++ later)) = p.visible (answersOf f done) := by
  refine Placed.visible_agree fun c hc => ?_
  have hnone : (answersOf f later).lookup c.1 = none :=
    answersOf_fresh fun q hq heq => h.fresh q (hlater q hq) (heq ▸ h.1 c hc)
  rw [answersOf_append, List.lookup_append, hnone, Option.or_none]

/-- A walk only adds questions that it passes. -/
theorem foldl_showNext (placed done : List Placed) :
    ∃ later, placed.foldl (showNext f) done = done ++ later ∧ ∀ q ∈ later, q ∈ placed := by
  induction placed generalizing done with
  | nil => exact ⟨[], by simp, by simp⟩
  | cons p rest ih =>
    rw [List.foldl_cons]
    obtain ⟨later, heq, hmem⟩ := ih (showNext f done p)
    unfold showNext at heq ⊢
    split at heq
    · next hvisible =>
      rw [if_pos hvisible]
      refine ⟨p :: later, by simpa using heq, fun q hq => ?_⟩
      rcases List.mem_cons.mp hq with rfl | hq
      · simp
      · exact List.mem_cons_of_mem _ (hmem q hq)
    · next hhidden =>
      rw [if_neg hhidden]
      exact ⟨later, heq, fun q hq => List.mem_cons_of_mem _ (hmem q hq)⟩

/-- **What a walk adds is what its own answers make visible.** -/
theorem Backward.fixed (h : Backward before placed) (done : List Placed) :
    placed.foldl (showNext f) done =
      done ++ placed.filter (Placed.visible (answersOf f (placed.foldl (showNext f) done))) := by
  induction placed generalizing before done with
  | nil => simp
  | cons p rest ih =>
    rw [List.foldl_cons]
    have hrest := ih h.2.2 (showNext f done p)
    obtain ⟨later, heq, hmem⟩ := foldl_showNext (f := f) (p :: rest) done
    rw [List.foldl_cons] at heq
    have hstable : p.visible (answersOf f (rest.foldl (showNext f) (showNext f done p))) =
        p.visible (answersOf f done) := by
      rw [heq]; exact h.visible_stable hmem done
    rw [List.filter_cons, hstable]
    cases hvisible : p.visible (answersOf f done) with
    | true =>
      have hnext : showNext f done p = done ++ [p] := by rw [showNext, if_pos hvisible]
      rw [hnext] at hrest ⊢
      simpa using hrest
    | false =>
      have hnext : showNext f done p = done := by rw [showNext, if_neg (by simp [hvisible])]
      rw [hnext] at hrest ⊢
      simpa using hrest

/-- **No other list of questions is what its own answers make visible.** -/
theorem Backward.unique (h : Backward before placed) {done result : List Placed}
    (hresult : result = done ++ placed.filter (Placed.visible (answersOf f result))) :
    placed.foldl (showNext f) done = result := by
  induction placed generalizing before done with
  | nil => simpa using hresult.symm
  | cons p rest ih =>
    have hstable : p.visible (answersOf f result) = p.visible (answersOf f done) := by
      have hlater : p.visible (answersOf f
            (done ++ (p :: rest).filter (Placed.visible (answersOf f result)))) =
          p.visible (answersOf f done) :=
        h.visible_stable (fun q hq => List.mem_of_mem_filter hq) done
      rwa [← hresult] at hlater
    rw [List.foldl_cons]
    refine ih h.2.2 ?_
    rw [List.filter_cons, hstable] at hresult
    unfold showNext
    cases hvisible : p.visible (answersOf f done) with
    | true => rw [if_pos rfl]; simpa [hvisible] using hresult
    | false => rw [if_neg (by simp)]; simpa [hvisible] using hresult

end FixedPoint

section Accepted

variable {validators : Validators} {schema : Schema}

theorem comparisons_before {before : List Question} {condition : Option Condition}
    (h : acceptedCondition validators before condition = true) :
    ∀ c ∈ optionalComparisons condition, c.1 ∈ before.map (·.id) := by
  intro c hc
  obtain ⟨q, hq, hid, -⟩ := comparable_question (comparable_optional h c hc)
  exact List.mem_map.mpr ⟨q, hq, hid⟩

theorem backward_questions {s : Section} {sectionBefore : List Question}
    (hguard : acceptedCondition validators sectionBefore s.visibleWhen = true) {tail : List Placed} :
    ∀ {questions before : List Question}, (∀ q ∈ sectionBefore, q ∈ before) →
    acceptedQuestions validators before questions = true →
    (before.map (·.id) ++ questions.map (·.id)).Nodup →
    Backward ((before ++ questions).map (·.id)) tail →
    Backward (before.map (·.id)) (questions.map s.place ++ tail)
  | [], before, _, _, _, htail => by simpa using htail
  | q :: rest, before, hsub, h, hnodup, htail => by
    simp only [acceptedQuestions, Bool.and_eq_true] at h
    have hfresh : q.id ∉ before.map (·.id) := fun hin =>
      (List.nodup_append.mp hnodup).2.2 q.id hin q.id (by simp) rfl
    refine ⟨?_, hfresh, ?_⟩
    · intro c hc
      rcases List.mem_append.mp hc with hc | hc
      · obtain ⟨q', hq', hid⟩ := List.mem_map.mp (comparisons_before hguard c hc)
        exact List.mem_map.mpr ⟨q', hsub q' hq', hid⟩
      · exact comparisons_before h.1 c hc
    · have hrest : Backward ((before ++ [q]).map (·.id)) (rest.map s.place ++ tail) :=
        backward_questions hguard (fun q' hq' => List.mem_append_left _ (hsub q' hq')) h.2
        (by simpa [List.append_assoc] using hnodup) (by simpa [List.append_assoc] using htail)
      rw [List.map_append] at hrest
      exact hrest

theorem backward_sections : ∀ {sections : List Section} {before : List Question},
    acceptedSections validators before sections = true →
    (before.map (·.id) ++ (sections.flatMap (·.questions)).map (·.id)).Nodup →
    Backward (before.map (·.id)) (sections.flatMap Section.placed)
  | [], _, _, _ => trivial
  | s :: rest, before, h, hnodup => by
    simp only [acceptedSections, Bool.and_eq_true] at h
    rw [List.flatMap_cons, List.map_append] at hnodup
    have hhead : (before.map (·.id) ++ s.questions.map (·.id)).Nodup := by
      rw [← List.append_assoc] at hnodup
      exact (List.nodup_append.mp hnodup).1
    have htail := backward_sections h.2
      (by simpa [List.append_assoc] using hnodup)
    exact backward_questions h.1.1 (fun _ hq => hq) h.1.2 hhead htail

/-- **Every condition of an accepted schema looks back.** -/
theorem Schema.accepted_backward (h : schema.accepted validators = true) :
    Backward [] schema.placed := by
  have hnodup := Schema.accepted_nodup h
  have hsections : acceptedSections validators [] schema.sections = true := by
    simp only [Schema.accepted, Bool.and_eq_true] at h
    exact h.2
  exact backward_sections hsections (by simpa [Schema.questions] using hnodup)

variable {f g : Question → Option Answer}

/-- **What is shown is what the answers shown make visible.** -/
theorem shown_fixed (h : schema.accepted validators = true) (f : Question → Option Answer) :
    shown f schema = schema.placed.filter (Placed.visible (answersOf f (shown f schema))) := by
  have hfixed := (Schema.accepted_backward h).fixed (f := f) []
  simpa [shown] using hfixed

theorem shown_unique (h : schema.accepted validators = true) {result : List Placed}
    (hresult : result = schema.placed.filter (Placed.visible (answersOf f result))) :
    shown f schema = result :=
  (Schema.accepted_backward h).unique (by simpa using hresult)

/-- **Two walks that agree on what the first one shows show the same.** -/
theorem shown_congr (h : schema.accepted validators = true)
    (hagree : ∀ p ∈ shown f schema, f p.question = g p.question) : shown g schema = shown f schema := by
  refine shown_unique h ?_
  rw [← answersOf_congr hagree]
  exact shown_fixed h f

theorem shown_placed (h : schema.accepted validators = true) {p : Placed} (hp : p ∈ shown f schema) :
    p ∈ schema.placed := by
  rw [shown_fixed h] at hp
  exact List.mem_of_mem_filter hp

theorem mem_shown (h : schema.accepted validators = true) {p : Placed} (hp : p ∈ schema.placed) :
    p ∈ shown f schema ↔ p.visible (answersOf f (shown f schema)) = true := by
  have hfixed := shown_fixed h f
  constructor
  · intro hin
    rw [hfixed] at hin
    exact List.of_mem_filter hin
  · intro hvisible
    rw [hfixed]
    exact List.mem_filter.mpr ⟨hp, hvisible⟩

/-- A question is shown exactly when its identifier is active. -/
theorem shown_id_mem (h : schema.accepted validators = true) {p : Placed} (hp : p ∈ schema.placed) :
    p.question.id ∈ (shown f schema).map (·.question.id) ↔ p ∈ shown f schema := by
  constructor
  · intro hin
    obtain ⟨p', hp', hid⟩ := List.mem_map.mp hin
    have hsame := List.inj_on_of_nodup_map (Schema.accepted_backward h).nodup
      (shown_placed h hp') hp hid
    exact hsame ▸ hp'
  · exact fun hin => List.mem_map_of_mem hin

/-- The set of identifiers tells what is shown. -/
theorem shown_mem_iff (h : schema.accepted validators = true) :
    (∀ i, i ∈ (shown f schema).map (·.question.id) ↔ i ∈ (shown g schema).map (·.question.id)) ↔
      shown f schema = shown g schema := by
  constructor
  · intro hids
    rw [shown_fixed h f, shown_fixed h g]
    refine List.filter_congr fun p hp => ?_
    rw [Bool.eq_iff_iff, ← mem_shown h hp, ← mem_shown h hp, ← shown_id_mem h hp, hids,
      shown_id_mem h hp]
  · exact fun hsame i => by rw [hsame]

/-- The list of identifiers tells no more. -/
theorem shown_ids_iff (h : schema.accepted validators = true) :
    (shown f schema).map (·.question.id) = (shown g schema).map (·.question.id) ↔
      shown f schema = shown g schema := by
  constructor
  · exact fun hids => (shown_mem_iff h).mp fun i => by rw [hids]
  · exact fun hsame => hsame ▸ rfl

theorem shown_nodup (h : schema.accepted validators = true) :
    ((shown f schema).map (·.question.id)).Nodup := by
  rw [shown_fixed h]
  exact (Schema.accepted_backward h).nodup.sublist (List.filter_sublist.map _)

theorem placed_question {p : Placed} (hp : p ∈ schema.placed) : p.question ∈ schema.questions := by
  obtain ⟨s, hs, hp⟩ := List.mem_flatMap.mp hp
  obtain ⟨q, hq, rfl⟩ := List.mem_map.mp hp
  exact List.mem_flatMap.mpr ⟨s, hs, hq⟩

theorem mem_placed {s : Section} {q : Question} (hs : s ∈ schema.sections) (hq : q ∈ s.questions) :
    s.place q ∈ schema.placed :=
  List.mem_flatMap.mpr ⟨s, hs, List.mem_map_of_mem hq⟩

theorem placed_comparison {p : Placed} (hp : p ∈ schema.placed) {c : QuestionId × Answer}
    (hc : c ∈ p.comparisons) : c ∈ schema.comparisons := by
  obtain ⟨s, hs, hp⟩ := List.mem_flatMap.mp hp
  obtain ⟨q, hq, rfl⟩ := List.mem_map.mp hp
  refine List.mem_flatMap.mpr ⟨s, hs, ?_⟩
  rcases List.mem_append.mp hc with hc | hc
  · exact List.mem_append_left _ hc
  · exact List.mem_append_right _ (List.mem_flatMap.mpr ⟨q, hq, hc⟩)

/-- The stored answer of a question that is shown. -/
theorem answersOf_lookup {placed : List Placed} (hnodup : (placed.map (·.question.id)).Nodup)
    {p : Placed} (hp : p ∈ placed) : (answersOf f placed).lookup p.question.id = f p.question := by
  obtain ⟨xs, ys, rfl⟩ := List.append_of_mem hp
  rw [List.map_append, List.map_cons] at hnodup
  obtain ⟨-, hright, hdisjoint⟩ := List.nodup_append.mp hnodup
  have hxs : (answersOf f xs).lookup p.question.id = none := answersOf_fresh fun q hq heq =>
    hdisjoint _ (List.mem_map_of_mem hq) _ (List.mem_cons_self) heq
  have hys : (answersOf f ys).lookup p.question.id = none := answersOf_fresh fun q hq heq =>
    (List.nodup_cons.mp hright).1 (heq ▸ List.mem_map_of_mem hq)
  have hcons : answersOf f (p :: ys) = entry p.question (f p.question) ++ answersOf f ys := rfl
  rw [answersOf_append, List.lookup_append, hxs, Option.none_or, hcons, List.lookup_append,
    lookup_entry, if_pos rfl, hys, Option.or_none]

end Accepted

section Folds

variable {σ : Type} {answersIn : σ → List (QuestionId × Answer)} {put : σ → Placed → σ}
  {f : Question → Option Answer}

/-- The walk of a state over the questions of a section. -/
def walkQuestion (answersIn : σ → List (QuestionId × Answer)) (put : σ → Placed → σ) (s : Section)
    (w : σ) (q : Question) : σ :=
  if q.visibleWhen.all (evaluateCondition (answersIn w)) then put w (s.place q) else w

def walkSection (answersIn : σ → List (QuestionId × Answer)) (put : σ → Placed → σ) (w : σ)
    (s : Section) : σ :=
  if s.visibleWhen.all (evaluateCondition (answersIn w)) then
    s.questions.foldl (walkQuestion answersIn put s) w
  else w

/-- One question of the walk of a state. -/
def walkPlaced (answersIn : σ → List (QuestionId × Answer)) (put : σ → Placed → σ) (w : σ)
    (p : Placed) : σ :=
  if p.visible (answersIn w) then put w p else w

variable (hput : ∀ w p, answersIn (put w p) = answersIn w ++ entry p.question (f p.question))

include hput in
/-- The condition of a section stays true while its questions are walked. -/
theorem questions_walked {s : Section} : ∀ {questions : List Question} {w : σ},
    (∀ c ∈ optionalComparisons s.visibleWhen, ∀ q ∈ questions, q.id ≠ c.1) →
    s.visibleWhen.all (evaluateCondition (answersIn w)) = true →
    questions.foldl (walkQuestion answersIn put s) w =
      (questions.map s.place).foldl (walkPlaced answersIn put) w
  | [], _, _, _ => rfl
  | q :: rest, w, hfresh, hguard => by
    have hsame : walkPlaced answersIn put w (s.place q) = walkQuestion answersIn put s w q := by
      simp [walkPlaced, walkQuestion, Placed.visible, Section.place, hguard]
    rw [List.foldl_cons, List.map_cons, List.foldl_cons, hsame]
    refine questions_walked (fun c hc q' hq' => hfresh c hc q' (List.mem_cons_of_mem _ hq')) ?_
    unfold walkQuestion
    split
    · rw [← hguard]
      refine evaluate_optional fun c hc => ?_
      rw [hput, List.lookup_append, lookup_entry,
        if_neg fun heq => hfresh c hc q (by simp) heq.symm, Option.or_none]
    · exact hguard

theorem hidden_walked {s : Section} {w : σ}
    (hguard : s.visibleWhen.all (evaluateCondition (answersIn w)) = false) (questions : List Question) :
    (questions.map s.place).foldl (walkPlaced answersIn put) w = w := by
  induction questions with
  | nil => rfl
  | cons q rest ih =>
    have hsame : walkPlaced answersIn put w (s.place q) = w := by
      simp [walkPlaced, Placed.visible, Section.place, hguard]
    rw [List.map_cons, List.foldl_cons, hsame, ih]

include hput in
theorem sections_walked : ∀ {sections : List Section} {before : List QuestionId} {w : σ},
    Backward before (sections.flatMap Section.placed) →
    sections.foldl (walkSection answersIn put) w =
      (sections.flatMap Section.placed).foldl (walkPlaced answersIn put) w
  | [], _, _, _ => rfl
  | s :: rest, before, w, h => by
    rw [List.flatMap_cons] at h ⊢
    have hfresh : ∀ c ∈ optionalComparisons s.visibleWhen, ∀ q ∈ s.questions, q.id ≠ c.1 := by
      intro c hc q hq heq
      have hq' : s.place q ∈ s.placed ++ rest.flatMap Section.placed :=
        List.mem_append_left _ (List.mem_map_of_mem hq)
      have hbefore : c.1 ∈ before := by
        obtain ⟨first, others, hquestions⟩ := List.exists_cons_of_ne_nil (List.ne_nil_of_mem hq)
        rw [Section.placed, hquestions] at h
        exact h.1 c (List.mem_append_left _ hc)
      exact h.fresh _ hq' (heq ▸ hbefore)
    have hsection : walkSection answersIn put w s = s.placed.foldl (walkPlaced answersIn put) w := by
      unfold walkSection Section.placed
      cases hguard : s.visibleWhen.all (evaluateCondition (answersIn w)) with
      | true => rw [if_pos rfl, questions_walked hput hfresh hguard]
      | false => rw [if_neg (by simp), hidden_walked hguard]
    rw [List.foldl_cons, List.foldl_append, hsection]
    exact sections_walked h.append

variable {init : σ} (hinit : answersIn init = [])

include hput hinit in
theorem answers_walked (placed : List Placed) :
    answersIn (placed.foldl put init) = answersOf f placed := by
  induction placed using List.reverseRecOn with
  | nil => exact hinit
  | append_singleton placed p ih =>
    rw [List.foldl_append, List.foldl_cons, List.foldl_nil, hput, ih, answersOf_append]
    simp [answersOf]

include hput hinit in
theorem placed_walked (placed done : List Placed) :
    placed.foldl (walkPlaced answersIn put) (done.foldl put init) =
      (placed.foldl (showNext f) done).foldl put init := by
  induction placed generalizing done with
  | nil => rfl
  | cons p rest ih =>
    rw [List.foldl_cons, List.foldl_cons, walkPlaced, showNext, answers_walked hput hinit done]
    split
    · have hnext := ih (done ++ [p])
      rwa [List.foldl_append, List.foldl_cons, List.foldl_nil] at hnext
    · exact ih done

include hput hinit in
/-- **A walk over an accepted schema is a fold over the questions it shows.** -/
theorem sections_foldl {validators : Validators} {schema : Schema}
    (h : schema.accepted validators = true) :
    schema.sections.foldl (walkSection answersIn put) init = (shown f schema).foldl put init := by
  rw [sections_walked hput (Schema.accepted_backward h)]
  exact placed_walked hput hinit schema.placed []

end Folds

end SheepContabil.SC06
