import SheepContabil.Proof.Sc06Shown

/-!
# SC-06: two readings of the answers

Two walks over a schema start alike. They part at the first question that a condition shows under
one reading of the answers and hides under the other, so whether they part can be read from the
comparisons of the schema.

* `settled`: each question in turn is shown under both readings or under none.
* `shown_eq_iff_settled`: this is when the two walks show the same.
* `RawAnswer.reads`: the value that a raw answer is read as, without the question.
-/

namespace SheepContabil.SC06

/-- The comparisons with the questions shown so far: with any other question none is true. -/
def among (done : List QuestionId) (truth : Comparing) : Comparing :=
  fun field value => done.contains field && truth field value

/-- Each question in turn is shown under both readings of the comparisons or under none, over the
questions shown before it. -/
def settled (first second : Comparing) (done : List QuestionId) : List Placed → Bool
  | [] => true
  | p :: rest =>
    p.holds (among done first) == p.holds (among done second) &&
      settled first second (if p.holds (among done first) then done ++ [p.question.id] else done) rest

section Settled

variable {schema : Schema} {f g : Question → Option Answer} {first second truth : Comparing}

/-- The answer of each question makes these comparisons of the schema true. -/
def Reads (schema : Schema) (answerOf : Question → Option Answer) (truth : Comparing) : Prop :=
  ∀ q ∈ schema.questions, ∀ v, (q.id, v) ∈ schema.comparisons → (answerOf q == some v) = truth q.id v

/-- What the answers of the questions shown so far make visible. -/
theorem visible_among (hreads : Reads schema f truth) {done : List Placed}
    (hnodup : (done.map (·.question.id)).Nodup) (hdone : ∀ p ∈ done, p ∈ schema.placed) {p : Placed}
    (hp : p ∈ schema.placed) :
    p.visible (answersOf f done) = p.holds (among (done.map (·.question.id)) truth) := by
  rw [Placed.visible_holds]
  refine Placed.holds_congr fun c hc => ?_
  unfold comparing among
  by_cases hin : c.1 ∈ done.map (·.question.id)
  · obtain ⟨p', hp', hid⟩ := List.mem_map.mp hin
    have hlookup : (answersOf f done).lookup c.1 = f p'.question :=
      hid ▸ answersOf_lookup hnodup hp'
    have hc' : (p'.question.id, c.2) ∈ schema.comparisons := by
      rw [hid]
      exact placed_comparison hp hc
    rw [hlookup, hreads p'.question (placed_question (hdone p' hp')) c.2 hc', hid,
      List.contains_iff_mem.mpr hin, Bool.true_and]
  · have hnone : (answersOf f done).lookup c.1 = none :=
      answersOf_fresh fun p' hp' heq => hin (List.mem_map.mpr ⟨p', hp', heq⟩)
    have hout : (done.map (·.question.id)).contains c.1 = false := by simpa using hin
    rw [hnone, hout, Bool.false_and]
    rfl

/-- A question that only one of two walks shows parts them for good. -/
theorem parted {before : List QuestionId} {p : Placed} {rest done : List Placed}
    (h : Backward before (p :: rest)) (hdone : ∀ p' ∈ done, p'.question.id ∈ before) :
    rest.foldl (showNext f) (done ++ [p]) ≠ rest.foldl (showNext g) done := by
  intro hsame
  obtain ⟨later, heq, -⟩ := foldl_showNext (f := f) rest (done ++ [p])
  obtain ⟨later', heq', hlater'⟩ := foldl_showNext (f := g) rest done
  have hin : p ∈ done ++ later' := by
    rw [← heq', ← hsame, heq]
    simp
  rcases List.mem_append.mp hin with hin | hin
  · exact h.2.1 (hdone p hin)
  · exact Backward.fresh h.2.2 p (hlater' p hin) (by simp)

/-- **Two walks that agree so far show the same of the questions to come exactly when these are
settled.** -/
theorem settled_iff (hf : Reads schema f first) (hg : Reads schema g second) {placed : List Placed}
    {before : List QuestionId} {done : List Placed} (h : Backward before placed)
    (hplaced : ∀ p ∈ placed, p ∈ schema.placed) (hdone : ∀ p ∈ done, p ∈ schema.placed)
    (hbefore : ∀ p ∈ done, p.question.id ∈ before) (hnodup : (done.map (·.question.id)).Nodup) :
    placed.foldl (showNext f) done = placed.foldl (showNext g) done ↔
      settled first second (done.map (·.question.id)) placed = true := by
  induction placed generalizing before done with
  | nil => simp [settled]
  | cons p rest ih =>
    have hp : p ∈ schema.placed := hplaced p (by simp)
    have hvisible : p.visible (answersOf f done) = _ := visible_among hf hnodup hdone hp
    have hvisible' : p.visible (answersOf g done) = _ := visible_among hg hnodup hdone hp
    have hrest : ∀ p' ∈ rest, p' ∈ schema.placed := fun p' hp' =>
      hplaced p' (List.mem_cons_of_mem _ hp')
    have hlater : ∀ p' ∈ done, p'.question.id ∈ before ++ [p.question.id] := fun p' hp' =>
      List.mem_append_left _ (hbefore p' hp')
    rw [List.foldl_cons, List.foldl_cons, showNext, showNext, hvisible, hvisible', settled,
      Bool.and_eq_true, beq_iff_eq]
    cases p.holds (among (done.map (·.question.id)) first) <;>
      cases p.holds (among (done.map (·.question.id)) second)
    · simpa using ih h.2.2 hrest hdone hlater hnodup
    · simpa using (parted (f := g) (g := f) h hbefore).symm
    · simpa using parted (f := f) (g := g) h hbefore
    · have hfresh : ∀ p' ∈ done, p'.question.id ≠ p.question.id := fun p' hp' heq =>
        h.2.1 (heq ▸ hbefore p' hp')
      have hnext : ((done ++ [p]).map (·.question.id)).Nodup := by
        rw [List.map_append, List.nodup_append]
        exact ⟨hnodup, by simp, by simpa using hfresh⟩
      simpa using ih h.2.2 hrest (List.forall_mem_append.mpr ⟨hdone, by simpa using hp⟩)
        (List.forall_mem_append.mpr ⟨hlater, by simp⟩) hnext

/-- **Two walks over an accepted schema show the same exactly when its questions are settled.** -/
theorem shown_eq_iff_settled {validators : Validators} (h : schema.accepted validators = true)
    (hf : Reads schema f first) (hg : Reads schema g second) :
    shown f schema = shown g schema ↔ settled first second [] schema.placed = true :=
  settled_iff hf hg (Schema.accepted_backward h) (fun _ hp => hp) (by simp) (by simp) (by simp)

/-- Two readings with one truth for every comparison settle every question. -/
theorem settled_of_agree (h : ∀ c ∈ schema.comparisons, first c.1 c.2 = second c.1 c.2)
    {placed : List Placed} (hplaced : ∀ p ∈ placed, p ∈ schema.placed) (done : List QuestionId) :
    settled first second done placed = true := by
  induction placed generalizing done with
  | nil => rfl
  | cons p rest ih =>
    have hsame : p.holds (among done first) = p.holds (among done second) :=
      Placed.holds_congr fun c hc => by
        rw [among, among, h c (placed_comparison (hplaced p (by simp)) hc)]
    rw [settled, hsame, beq_self_eq_true, Bool.true_and]
    exact ih (fun p' hp' => hplaced p' (List.mem_cons_of_mem _ hp')) _

end Settled

section Reading

/-- The value that a raw answer is read as: a text without the spaces around it, or one of the
boolean words. -/
def RawAnswer.reads (raw : RawAnswer) (v : Answer) : Bool :=
  match raw, v with
  | .text t, .text t' => strip t == t'
  | .text t, .bool b => (if b then booleanTrue else booleanFalse).contains (lower (strip t))
  | .int n, .bool b => decide (n = if b then 1 else 0)
  | .bool b', .bool b => b' == b
  | _, _ => false

theorem booleanFalse_ne : ∀ t ∈ booleanFalse, t ∉ booleanTrue := by decide +kernel

variable {validators : Validators} {q : Question} {raw : RawAnswer} {v : Answer}

theorem coerceAnswer_bool (htype : q.type = .boolean) (b : Bool) :
    ((coerceAnswer validators q raw).toOption == some (.bool b)) = raw.reads (.bool b) := by
  unfold coerceAnswer
  rw [if_pos htype]
  cases raw with
  | text t =>
    dsimp only
    by_cases htrue : lower (strip t) ∈ booleanTrue
    · have hfalse : lower (strip t) ∉ booleanFalse := fun h => booleanFalse_ne _ h htrue
      rw [if_pos htrue]
      cases b <;> simp [RawAnswer.reads, Except.toOption, htrue, hfalse]
    · rw [if_neg htrue]
      by_cases hfalse : lower (strip t) ∈ booleanFalse
      · rw [if_pos hfalse]
        cases b <;> simp [RawAnswer.reads, Except.toOption, htrue, hfalse]
      · rw [if_neg hfalse]
        cases b <;> simp [RawAnswer.reads, Except.toOption, htrue, hfalse]
  | int n =>
    dsimp only
    by_cases h0 : n = 0
    · rw [if_pos h0]
      cases b <;> simp [RawAnswer.reads, Except.toOption, h0]
    · rw [if_neg h0]
      by_cases h1 : n = 1
      · rw [if_pos h1]
        cases b <;> simp [RawAnswer.reads, Except.toOption, h1]
      · rw [if_neg h1]
        cases b <;> simp [RawAnswer.reads, Except.toOption, h0, h1]
  | bool b' => cases b <;> cases b' <;> rfl
  | null | emptyList | other => rfl

theorem coerceAnswer_text (htype : q.type ≠ .boolean) (value t : Text) :
    (coerceAnswer validators q (.text value)).toOption = some (.text t) ↔
      q.textError? validators (strip value) = none ∧ strip value = t := by
  unfold coerceAnswer
  rw [if_neg htype]
  cases herror : q.textError? validators (strip value) with
  | none => simp [Except.toOption, herror]
  | some message => simp [Except.toOption, herror]

/-- **A value that a question may be compared with is what it stores exactly when its raw answer
reads as this value.** -/
theorem coerceAnswer_reads (h : q.comparesWith validators v = true) (raw : RawAnswer) :
    ((coerceAnswer validators q raw).toOption == some v) = raw.reads v := by
  cases v with
  | bool b => exact coerceAnswer_bool (by simpa [Question.comparesWith] using h) b
  | text t =>
    simp only [Question.comparesWith, Bool.and_eq_true, bne_iff_ne, ne_eq, beq_iff_eq] at h
    obtain ⟨htype, hvalue⟩ := h
    -- the compared value is valid and has no space around it
    obtain ⟨hvalid, hstripped⟩ := (coerceAnswer_text htype t t).mp hvalue
    cases raw with
    | text t' =>
      rw [Bool.eq_iff_iff, beq_iff_eq, coerceAnswer_text htype, RawAnswer.reads, beq_iff_eq]
      refine and_iff_right_of_imp fun heq => ?_
      rw [heq, ← hstripped]
      exact hvalid
    | null | bool _ | int _ | emptyList | other =>
      unfold coerceAnswer
      rw [if_neg htype]
      rfl

/-- A text that a schema compares with has no space around it. -/
theorem Schema.accepted_stripped {schema : Schema} (h : schema.accepted validators = true)
    {i : QuestionId} {t : Text} (hc : (i, Answer.text t) ∈ schema.comparisons) : strip t = t := by
  have hsections : acceptedSections validators [] schema.sections = true := by
    simp only [Schema.accepted, Bool.and_eq_true] at h
    exact h.2
  obtain ⟨q, -, -, hcompares⟩ := acceptedSections_comparable hsections _ hc
  simp only [Question.comparesWith, Bool.and_eq_true, bne_iff_ne, ne_eq, beq_iff_eq] at hcompares
  exact ((coerceAnswer_text hcompares.1 t t).mp hcompares.2).2

/-- Only the empty text reads as the empty text among what `sanitize_answers` takes for missing. -/
theorem reads_isEmpty (hempty : raw.isEmpty = true) (hreads : raw.reads v = true) :
    raw = .text [] ∧ v = .text [] := by
  cases raw with
  | text t =>
    obtain rfl : t = [] := by
      cases t with
      | nil => rfl
      | cons c rest => simp [RawAnswer.isEmpty] at hempty
    refine ⟨rfl, ?_⟩
    cases v with
    | text t' =>
      have hnil : strip [] = t' := by simpa [RawAnswer.reads] using hreads
      rw [← hnil]
      rfl
    | bool b => cases b <;> simp [RawAnswer.reads] at hreads <;> revert hreads <;> decide
  | _ => simp [RawAnswer.isEmpty, RawAnswer.reads] at hempty hreads

end Reading

end SheepContabil.SC06
