import SheepContabil.Proof.Sc06Briefing

/-!
# SC-06: the answers of a briefing and the schema of its version

A briefing is created for a published version, and a published version stays as it is. So the answers
that the sanitizer once returned for a briefing are answers to the schema that its version still has.

* `perform_edits`: what a call writes of the answers and of the versions.
* `Grounded`: the answers of every briefing are answers to the schema of its version.
* `briefings_grounded`: **over any calls** the answers stay grounded, and the evidence of a closed
  briefing is final.
-/

namespace SheepContabil.SC06

open Operation

section Edits

variable (validators : Validators) (u : Unicode)

/-- The answers that a briefing and its run hold, for a schema: what the sanitizer returned for some
raw answers, complete ones when the briefing is completed, and how many they are. -/
structure Answered (schema : Schema) (b : Briefing) (r : BriefingRun) : Prop where
  pending : b.status ≠ .completed → b.answers = [] ∨
    ∃ answers, sanitizeAnswers validators u answers false schema = .ok b.answers
  completed : b.status = .completed →
    ∃ answers, sanitizeAnswers validators u answers true schema = .ok b.answers
  count : r.answersCount =
    if b.status = .completed then (formatAnswers validators b.answers schema).length
    else b.answers.length

/-- The rows of the versions: each has passed `full_clean`, and no two have one number of a template. -/
structure VersionsClean (versions : List TemplateVersion) : Prop where
  accepted : ∀ (i : ℕ) (v : TemplateVersion), versions[i]? = some v →
    v.schema.accepted validators = true
  numbered : ∀ (i j : ℕ) (v w : TemplateVersion), versions[i]? = some v → versions[j]? = some w →
    v.template = w.template → v.version = w.version → i = j

/-- What a call writes of the answers and of the versions. -/
inductive Edits (s : Portal) : Portal → Prop
  | refused : Edits s s
  | created (b : Briefing) (r : BriefingRun) (v : TemplateVersion) : b.run = s.runs.length →
      s.versions[b.templateVersion]? = some v → v.status = .published →
      Answered validators u v.schema b r →
      Edits s { s with runs := s.runs ++ [r], briefings := s.briefings ++ [b] }
  | written (id : ℕ) (b b' : Briefing) (r r' : BriefingRun) : s.briefings[id]? = some b →
      s.runs[b.run]? = some r → b'.run = b.run → b'.templateVersion = b.templateVersion →
      (∀ v, s.versions[b.templateVersion]? = some v → Answered validators u v.schema b r →
        Answered validators u v.schema b' r') →
      Edits s { s with briefings := s.briefings.set id b', runs := s.runs.set b.run r' }
  | versioned (versions : List TemplateVersion) :
      (∀ (i : ℕ) (v : TemplateVersion), s.versions[i]? = some v → v.status = .published →
        versions[i]? = some v) →
      (VersionsClean validators s.versions → VersionsClean validators versions) →
      Edits s { s with versions := versions }

variable {validators u} {s s' : Portal}

/-- The sanitizer reads the schema of the version. -/
theorem sanitizedAnswers_result {b : Briefing} {answers : QuestionId → Option RawAnswer}
    {requireComplete : Bool} {stored : List (QuestionId × Answer)}
    (h : sanitizedAnswers validators u b answers requireComplete s = (.ok stored, s')) :
    ∃ v, s.versions[b.templateVersion]? = some v ∧
      sanitizeAnswers validators u answers requireComplete v.schema = .ok stored := by
  unfold sanitizedAnswers at h
  obtain ⟨version, t, hrow, h⟩ := bind_ok.mp h
  obtain ⟨hversion, rfl⟩ := row_ok.mp hrow
  refine ⟨version, hversion, ?_⟩
  by_cases haccepted : version.schema.accepted validators = true
  · rw [if_pos haccepted] at h
    cases hsanitized : sanitizeAnswers validators u answers requireComplete version.schema with
    | ok value =>
      rw [hsanitized] at h
      rw [(pure_ok.mp h).1]
    | error errors =>
      rw [hsanitized] at h
      exact (refuse_ok.mp h).elim
  · rw [if_neg haccepted] at h
    exact (refuse_ok.mp h).elim

theorem atomic_edits {α : Type} {x : Operation α}
    (h : ∀ a t, x s = (.ok a, t) → Edits validators u s t) :
    Edits validators u s (atomic x s).2 := by
  rcases atomic_cases x s with ⟨a, t, hatomic, hbody⟩ | ⟨e, hatomic⟩
  · rw [hatomic]; exact h a t hbody
  · rw [hatomic]; exact .refused

/-- A fold that keeps the greater key: its result is one of the places, with the greatest key. -/
theorem fold_latest (key : ℕ → ℕ) {f : Option ℕ → ℕ → Option ℕ}
    (hf : ∀ best x, ∃ z, f best x = some z ∧ (z = x ∨ best = some z) ∧ key x ≤ key z ∧
      ∀ b, best = some b → key b ≤ key z) {xs : List ℕ} {best : Option ℕ} {y : ℕ}
    (h : xs.foldl f best = some y) :
    (y ∈ xs ∨ best = some y) ∧ (∀ x ∈ xs, key x ≤ key y) ∧ ∀ b, best = some b → key b ≤ key y := by
  induction xs generalizing best with
  | nil =>
    refine ⟨.inr h, fun x hx => (by cases hx), fun b hb => ?_⟩
    rw [List.foldl_nil, hb, Option.some.injEq] at h
    rw [h]
  | cons x xs ih =>
    obtain ⟨z, hz, hcases, hxz, hbest⟩ := hf best x
    rw [List.foldl_cons] at h
    obtain ⟨hmem, hgreatest, hkept⟩ := ih h
    have hzy := hkept z hz
    refine ⟨?_, fun w hw => ?_, fun b hb => (hbest b hb).trans hzy⟩
    · rcases hmem with hmem | hlast
      · exact .inl (List.mem_cons_of_mem _ hmem)
      · rw [hz, Option.some.injEq] at hlast
        subst hlast
        exact hcases.imp_left fun heq => by rw [heq]; exact List.mem_cons_self
    · rcases List.mem_cons.1 hw with rfl | hw
      · exact hxz.trans hzy
      · exact hgreatest w hw

/-- The number of the version at a place. -/
def numberAt (s : Portal) (i : ℕ) : ℕ := (s.versions[i]?.map (·.version)).getD 0

/-- **The latest published version** of a template is published, and no other has a greater number. -/
theorem latestPublishedVersion_some {template : Text} {i : ℕ}
    (h : latestPublishedVersion template s = some i) :
    ∃ v, s.versions[i]? = some v ∧ v.template = template ∧ v.status = .published ∧
      ∀ (j : ℕ) (w : TemplateVersion), s.versions[j]? = some w → w.template = template →
        w.status = .published → w.version ≤ v.version := by
  unfold latestPublishedVersion at h
  dsimp only at h
  have hfold := fun hf => fold_latest (numberAt s) hf h
  obtain ⟨hmem, hgreatest, -⟩ := hfold (by
    intro best x
    cases best with
    | none => exact ⟨x, rfl, .inl rfl, le_rfl, fun b hb => (by cases hb)⟩
    | some j =>
      dsimp only
      split
      · next hlt =>
        refine ⟨x, rfl, .inl rfl, le_rfl, fun b hb => ?_⟩
        obtain rfl := Option.some.inj hb
        exact hlt.le
      · next hle =>
        refine ⟨j, rfl, .inr rfl, not_lt.1 hle, fun b hb => ?_⟩
        rw [Option.some.inj hb])
  obtain ⟨-, hfound⟩ := List.mem_filter.1 (hmem.resolve_right fun hnone => by cases hnone)
  cases hv : s.versions[i]? with
  | none =>
    rw [hv] at hfound
    cases hfound
  | some v =>
    rw [hv, Option.any_some, decide_eq_true_eq] at hfound
    refine ⟨v, rfl, hfound.1, hfound.2.2, fun j w hw htemplate hpublished => ?_⟩
    have hj : j ∈ (List.range s.versions.length).filter fun i =>
        s.versions[i]?.any fun v => v.template = template ∧
          s.activeTemplates.contains template ∧ v.status = .published := by
      refine List.mem_filter.2 ⟨List.mem_range.2 (List.getElem?_eq_some_iff.1 hw).1, ?_⟩
      rw [hw, Option.any_some, decide_eq_true_eq]
      exact ⟨htemplate, hfound.2.1, hpublished⟩
    have hle := hgreatest j hj
    rwa [numberAt, numberAt, hw, hv] at hle

/-- **A new briefing** is bound to the latest published version of its template. -/
theorem createBriefing_ok {name document template : Text} {user now id : ℕ}
    {created started : Option Refusal}
    (h : createBriefing name document user template now created started s = (.ok id, s')) :
    ∃ b r version, s' = { s with runs := s.runs ++ [r], briefings := s.briefings ++ [b] } ∧
      id = s.briefings.length ∧ b.run = s.runs.length ∧ b.templateVersion = version ∧
      latestPublishedVersion template s = some version ∧
      b.status = .draft ∧ b.answers = [] ∧ r.answersCount = 0 := by
  rcases atomic_cases _ s with ⟨id', t, hatomic, hbody⟩ | ⟨e, hatomic⟩
  · obtain ⟨hid', rfl⟩ := Prod.mk.inj (hatomic.symm.trans h)
    obtain rfl := Except.ok.inj hid'
    obtain ⟨s₁, s₂, hget, hbody⟩ := bind_ok.mp hbody
    obtain ⟨rfl, rfl⟩ := get_ok.mp hget
    cases hversion : latestPublishedVersion template s with
    | none =>
      rw [hversion] at hbody
      exact (refuse_ok.mp hbody).elim
    | some version =>
      rw [hversion] at hbody
      dsimp only at hbody
      by_cases hmodule : s.hasModule = true
      · rw [if_pos hmodule] at hbody
        obtain ⟨run, s₃, hrun, hbody⟩ := bind_ok.mp hbody
        obtain ⟨briefing, s₄, hrow, hbody⟩ := bind_ok.mp hbody
        obtain ⟨_, s₅, hcreated, hbody⟩ := bind_ok.mp hbody
        obtain ⟨_, s₆, hstarted, hbody⟩ := bind_ok.mp hbody
        obtain ⟨rfl, rfl⟩ := pure_ok.mp hbody
        obtain rfl := recordRunEvent_ok hcreated
        obtain rfl := recordRunEvent_ok hstarted
        obtain ⟨hid, rfl⟩ := Prod.mk.inj hrun
        unfold createRow at hrow
        split at hrow
        · obtain ⟨hplace, rfl⟩ := Prod.mk.inj hrow
          exact ⟨_, _, version, rfl, (Except.ok.inj hplace).symm, (Except.ok.inj hid).symm, rfl, rfl,
            rfl, rfl, rfl⟩
        · cases hrow
      · rw [if_neg hmodule] at hbody
        exact (refuse_ok.mp hbody).elim
  · cases hatomic.symm.trans h

theorem createBriefing_edits (name document template : Text) (user now : ℕ)
    (created started : Option Refusal) :
    Edits validators u s (createBriefing name document user template now created started s).2 := by
  rcases atomic_cases _ s with ⟨id, t, hatomic, -⟩ | ⟨e, hatomic⟩
  · obtain ⟨b, r, version, hs', -, hrun, hplace, hlatest, hdraft, hanswers, hcount⟩ :=
      createBriefing_ok hatomic
    obtain ⟨v, hv, -, hpublished, -⟩ := latestPublishedVersion_some hlatest
    have hopen : b.status ≠ .completed := by rw [hdraft]; decide
    rw [createBriefing, hatomic, hs']
    refine Edits.created b r v hrun (hplace ▸ hv) hpublished
      ⟨fun _ => .inl hanswers, fun h => absurd h hopen, ?_⟩
    rw [if_neg hopen, hanswers, hcount]
    rfl
  · rw [createBriefing, hatomic]
    exact .refused

theorem saveBriefingDraft_edits (id : ℕ) (answers : QuestionId → Option RawAnswer) :
    Edits validators u s (saveBriefingDraft validators u id answers s).2 := by
  refine atomic_edits fun _ s' hbody => ?_
  obtain ⟨b, hb, hdraft, hbody⟩ := draft_ok hbody
  obtain ⟨stored, t, hsanitized, hbody⟩ := bind_ok.mp hbody
  obtain ⟨v, hv, hstored⟩ := sanitizedAnswers_result hsanitized
  obtain rfl := sanitizedAnswers_ok hsanitized
  obtain ⟨_, t, hsave, hbody⟩ := bind_ok.mp hbody
  obtain rfl := saveBriefing_ok hsave
  obtain ⟨r, t, hrun, hbody⟩ := bind_ok.mp hbody
  obtain ⟨hr, rfl⟩ := row_ok.mp hrun
  rw [saveRun_ok hbody]
  have hopen : b.status ≠ .completed := by rw [hdraft]; decide
  refine Edits.written id b _ r _ hb hr rfl rfl fun w hw _ => ?_
  rw [hv, Option.some.injEq] at hw
  subst hw
  exact ⟨fun _ => .inr ⟨answers, hstored⟩, fun h => absurd h hopen, (if_neg hopen).symm⟩

theorem completeBriefing_edits (id : ℕ) (answers : QuestionId → Option RawAnswer)
    (completedBy now : ℕ) (recorded : Option Refusal) :
    Edits validators u s (completeBriefing validators u id answers completedBy now recorded s).2 := by
  refine atomic_edits fun _ s' hbody => ?_
  obtain ⟨b, hb, hdraft, hbody⟩ := draft_ok hbody
  obtain ⟨stored, t, hsanitized, hbody⟩ := bind_ok.mp hbody
  obtain ⟨v, hv, hstored⟩ := sanitizedAnswers_result hsanitized
  obtain rfl := sanitizedAnswers_ok hsanitized
  obtain ⟨_, t, hsave, hbody⟩ := bind_ok.mp hbody
  obtain rfl := saveBriefing_ok hsave
  obtain ⟨version, t, hread, hbody⟩ := bind_ok.mp hbody
  obtain ⟨hfound, rfl⟩ := row_ok.mp hread
  obtain ⟨r, t, hrun, hbody⟩ := bind_ok.mp hbody
  obtain ⟨hr, rfl⟩ := row_ok.mp hrun
  obtain ⟨_, t, hsaveRun, hbody⟩ := bind_ok.mp hbody
  obtain rfl := saveRun_ok hsaveRun
  obtain rfl := recordRunEvent_ok hbody
  refine Edits.written id b _ r _ hb hr rfl rfl fun w hw _ => ?_
  -- the schema that sanitized the answers also formats them
  have hversion : s.versions[b.templateVersion]? = some version := hfound
  rw [hv, Option.some.injEq] at hw hversion
  subst hw
  subst hversion
  exact ⟨fun h => absurd rfl h, fun _ => ⟨answers, hstored⟩, rfl⟩

/-- A briefing that is cancelled keeps its answers, and its run their number. -/
theorem Answered.cancelled {schema : Schema} {b : Briefing} {r r' : BriefingRun}
    (hdraft : b.status = .draft) (h : Answered validators u schema b r)
    (hcount : r'.answersCount = r.answersCount) :
    Answered validators u schema { b with status := .cancelled } r' := by
  have hopen : b.status ≠ .completed := by rw [hdraft]; decide
  refine ⟨fun _ => h.pending hopen, fun hcompleted => (by cases hcompleted), ?_⟩
  rw [hcount, h.count, if_neg hopen]
  rfl

theorem cancelBriefing_edits (id : ℕ) (cancelledBy : ℕ) (label : String) (now : ℕ)
    (recorded : Option Refusal) :
    Edits validators u s (cancelBriefing id cancelledBy label now recorded s).2 := by
  refine atomic_edits fun _ s' hbody => ?_
  obtain ⟨b, hb, hdraft, hbody⟩ := draft_ok hbody
  obtain ⟨_, t, hsave, hbody⟩ := bind_ok.mp hbody
  obtain rfl := saveBriefing_ok hsave
  obtain ⟨r, t, hrun, hbody⟩ := bind_ok.mp hbody
  obtain ⟨hr, rfl⟩ := row_ok.mp hrun
  obtain ⟨_, t, hsaveRun, hbody⟩ := bind_ok.mp hbody
  obtain rfl := saveRun_ok hsaveRun
  obtain rfl := recordRunEvent_ok hbody
  exact Edits.written id b _ r _ hb hr rfl rfl fun _ _ h => h.cancelled hdraft rfl

theorem discardEmptyBriefing_edits (id : ℕ) (now : ℕ) (recorded : Option Refusal) :
    Edits validators u s (discardEmptyBriefing id now recorded s).2 := by
  refine atomic_edits fun _ s' hbody => ?_
  obtain ⟨b, hb, hdraft, hbody⟩ := draft_ok hbody
  by_cases hempty : b.isEmpty = true
  · rw [if_pos hempty] at hbody
    obtain ⟨r, t, hrun, hbody⟩ := bind_ok.mp hbody
    obtain ⟨hr, rfl⟩ := row_ok.mp hrun
    obtain ⟨_, t, hsave, hbody⟩ := bind_ok.mp hbody
    obtain rfl := saveBriefing_ok hsave
    obtain ⟨_, t, hsaveRun, hbody⟩ := bind_ok.mp hbody
    obtain rfl := saveRun_ok hsaveRun
    obtain ⟨_, t, hrecorded, hbody⟩ := bind_ok.mp hbody
    obtain rfl := recordRunEvent_ok hrecorded
    obtain ⟨-, rfl⟩ := pure_ok.mp hbody
    exact Edits.written id b _ r _ hb hr rfl rfl fun _ _ h => h.cancelled hdraft rfl
  · rw [if_neg hempty] at hbody
    obtain ⟨-, rfl⟩ := pure_ok.mp hbody
    exact .refused

/-- What `full_clean` asks of the rows, once this one is saved at its place. -/
theorem VersionsClean.saved {versions versions' : List TemplateVersion} {place : Option ℕ}
    {v : TemplateVersion} {k : ℕ} (h : VersionsClean validators versions)
    (haccepted : v.schema.accepted validators = true)
    (hother : ∀ (i : ℕ) (w : TemplateVersion), versions[i]? = some w → some i ≠ place →
      w.template = v.template → w.version ≠ v.version)
    (hrows : ∀ (i : ℕ) (w : TemplateVersion), versions'[i]? = some w →
      (i = k ∧ w = v) ∨ versions[i]? = some w ∧ some i ≠ place) :
    VersionsClean validators versions' := by
  constructor
  · intro i w hw
    rcases hrows i w hw with ⟨-, rfl⟩ | ⟨hw, -⟩
    · exact haccepted
    · exact h.accepted i w hw
  · intro i j w x hw hx htemplate hversion
    rcases hrows i w hw with ⟨rfl, rfl⟩ | ⟨hw, hi⟩
    · rcases hrows j x hx with ⟨rfl, rfl⟩ | ⟨hx, hj⟩
      · rfl
      · exact absurd hversion.symm (hother j x hx hj htemplate.symm)
    · rcases hrows j x hx with ⟨rfl, rfl⟩ | ⟨hx, hj⟩
      · exact absurd hversion (hother i w hw hi htemplate)
      · exact h.numbered i j w x hw hx htemplate hversion

theorem fullClean_spec {v : TemplateVersion} {place : Option ℕ}
    (h : v.fullClean validators place s = true) : v.schema.accepted validators = true ∧
      ∀ (i : ℕ) (w : TemplateVersion), s.versions[i]? = some w → some i ≠ place →
        w.template = v.template → w.version ≠ v.version := by
  unfold TemplateVersion.fullClean at h
  rw [Bool.and_eq_true, Bool.and_eq_true, Bool.and_eq_true] at h
  obtain ⟨⟨⟨haccepted, -⟩, -⟩, hunique⟩ := h
  refine ⟨haccepted, fun i w hw hplace htemplate hversion => ?_⟩
  have hi := List.all_eq_true.1 hunique i
    (List.mem_range.2 (List.getElem?_eq_some_iff.1 hw).1)
  rw [hw, Option.any_some] at hi
  simp [hplace, htemplate, hversion] at hi

theorem saveVersion_edits (place : Option ℕ) (v : TemplateVersion) (now : ℕ) :
    Edits validators u s (saveVersion validators place v now s).2 := by
  unfold saveVersion
  dsimp only
  generalize (if v.status = .published ∧ v.publishedAt = none then
    { v with publishedAt := some now } else v) = v
  split
  · next previous hprevious =>
    obtain ⟨i, rfl, hi⟩ := Option.bind_eq_some_iff.mp hprevious
    split
    · exact .refused
    · next hsame =>
      split
      · next hclean =>
        obtain ⟨haccepted, hother⟩ := fullClean_spec hclean
        refine Edits.versioned _ (fun j w hw hpublished => ?_) fun h =>
          h.saved (k := i) haccepted hother fun j w hw => ?_
        · rw [Option.getD_some, List.getElem?_set]
          split
          · next heq =>
            subst heq
            rw [hi, Option.some.injEq] at hw
            subst hw
            have hequal : previous = v := by
              by_contra hne
              exact hsame ⟨hpublished, hne⟩
            rw [if_pos (List.getElem?_eq_some_iff.mp hi).1, hequal]
          · exact hw
        · rw [Option.getD_some] at hw
          rcases Rows.set_cases hw with ⟨rfl, rfl⟩ | ⟨hne, hw⟩
          · exact .inl ⟨rfl, rfl⟩
          · exact .inr ⟨hw, fun heq => hne (Option.some.inj heq)⟩
      · exact .refused
  · split
    · next hclean =>
      obtain ⟨haccepted, hother⟩ := fullClean_spec hclean
      refine Edits.versioned _ (fun j w hw _ => Rows.append_some hw) fun h =>
        h.saved (k := s.versions.length) haccepted hother fun j w hw => ?_
      rcases Rows.append_cases hw with hw | ⟨rfl, rfl⟩
      · exact .inr ⟨hw, fun heq => (by cases heq)⟩
      · exact .inl ⟨rfl, rfl⟩
    · exact .refused

/-- **All that a call writes of the answers and of the versions.** -/
theorem perform_edits (validators : Validators) (u : Unicode) (call : Call) (s : Portal) :
    Edits validators u s (call.perform validators u s).2 := by
  cases call with
  | create name document user template now created started =>
    exact createBriefing_edits name document template user now created started
  | saveDraft id answers => exact saveBriefingDraft_edits id answers
  | complete id answers user now recorded => exact completeBriefing_edits id answers user now recorded
  | cancel id user label now recorded => exact cancelBriefing_edits id user label now recorded
  | discardEmpty id now recorded => exact discardEmptyBriefing_edits id now recorded
  | saveVersion place version now => exact saveVersion_edits place version now

end Edits

section Grounded

variable {validators : Validators} {u : Unicode} {s s' : Portal}

/-- The answers of every briefing are answers to the schema that its published version has. -/
structure Grounded (validators : Validators) (u : Unicode) (s : Portal) : Prop where
  consistent : Consistent s
  versions : VersionsClean validators s.versions
  briefings : ∀ (id : ℕ) (b : Briefing) (r : BriefingRun), s.briefings[id]? = some b →
    s.runs[b.run]? = some r → ∃ v, s.versions[b.templateVersion]? = some v ∧
      v.status = .published ∧ Answered validators u v.schema b r

/-- **Every call keeps the answers grounded.** -/
theorem Grounded.step (h : Grounded validators u s) (hm : Moves s s')
    (he : Edits validators u s s') : Grounded validators u s' := by
  refine ⟨h.consistent.step hm, ?_, ?_⟩
  · cases he with
    | refused => exact h.versions
    | created => exact h.versions
    | written => exact h.versions
    | versioned versions _ hclean => exact hclean h.versions
  · intro id c r hc hr
    cases he with
    | refused => exact h.briefings id c r hc hr
    | created b r₀ v hrun hv hpublished hanswered =>
      rcases Rows.append_cases hc with hc | ⟨-, rfl⟩
      · obtain ⟨r₁, hr₁, -⟩ := h.consistent.paired id c hc
        have heq := (Rows.append_some hr₁).symm.trans hr
        rw [← Option.some.inj heq]
        exact h.briefings id c r₁ hc hr₁
      · rw [hrun, List.getElem?_concat_length, Option.some.injEq] at hr
        rw [← hr]
        exact ⟨v, hv, hpublished, hanswered⟩
    | written id₀ b b' r₀ r' hb hr₀ hrun hversion hanswered =>
      rcases Rows.set_cases hc with ⟨rfl, rfl⟩ | ⟨hne, hc⟩
      · rw [hrun, Rows.set_self hr₀, Option.some.injEq] at hr
        obtain ⟨v, hv, hpublished, h⟩ := h.briefings id b r₀ hb hr₀
        rw [← hr, hversion]
        exact ⟨v, hv, hpublished, hanswered v hv h⟩
      · have hother : b.run ≠ c.run := fun heq => hne (h.consistent.own id₀ id b c hb hc heq).symm
        rw [List.getElem?_set_ne hother] at hr
        exact h.briefings id c r hc hr
    | versioned versions hkept _ =>
      obtain ⟨v, hv, hpublished, hanswered⟩ := h.briefings id c r hc hr
      exact ⟨v, hkept _ v hv hpublished, hpublished, hanswered⟩

theorem Grounded.history (calls : List Call) :
    ∀ {s}, Grounded validators u s → Grounded validators u (history validators u s calls) := by
  induction calls with
  | nil => exact fun h => h
  | cons call rest ih =>
    intro s h
    exact ih (h.step (perform_moves validators u call s) (perform_edits validators u call s))

/-- Tables without versions and briefings. -/
theorem Grounded.fresh (hasModule : Bool) (activeTemplates : List Text) :
    Grounded validators u { hasModule := hasModule, activeTemplates := activeTemplates } :=
  ⟨Consistent.fresh _ _ _, ⟨by simp, by simp⟩, by simp⟩

/-- **The evidence of a briefing.** Over any calls, successful or refused, from tables without
versions, the versions of a template have different numbers; every briefing is bound to a published
version whose schema the validator accepts, and its answers are what the sanitizer returned for the
schema that this version still has, complete ones when it is completed, with their number at its run;
the briefing, the run and the version of a closed briefing stay as they are; and a new briefing takes
the latest published version of its template. -/
theorem briefings_grounded (validators : Validators) (u : Unicode) (hasModule : Bool)
    (activeTemplates : List Text) (calls : List Call) :
    let s := SC06.history validators u
      { hasModule := hasModule, activeTemplates := activeTemplates } calls
    (∀ (i j : ℕ) (v w : TemplateVersion), s.versions[i]? = some v → s.versions[j]? = some w →
      v.template = w.template → v.version = w.version → i = j) ∧
    (∀ (id : ℕ) (b : Briefing), s.briefings[id]? = some b →
      ∃ v r, s.versions[b.templateVersion]? = some v ∧ s.runs[b.run]? = some r ∧
        v.status = .published ∧ v.schema.accepted validators = true ∧
        Answered validators u v.schema b r ∧
        (b.status ≠ .draft → ∀ more : List Call,
          (SC06.history validators u s more).briefings[id]? = some b ∧
          (SC06.history validators u s more).versions[b.templateVersion]? = some v ∧
          (SC06.history validators u s more).runs[b.run]? = some r)) ∧
    (∀ (name document : Text) (user : ℕ) (template : Text) (now : ℕ)
      (created started : Option Refusal) (id : ℕ) (s' : Portal),
      createBriefing name document user template now created started s = (.ok id, s') →
      ∃ b v, s'.briefings[id]? = some b ∧ s.versions[b.templateVersion]? = some v ∧
        v.template = template ∧ v.status = .published ∧
        ∀ (j : ℕ) (w : TemplateVersion), s.versions[j]? = some w → w.template = template →
          w.status = .published → w.version ≤ v.version) := by
  intro s
  have h : Grounded validators u s := (Grounded.fresh hasModule activeTemplates).history calls
  refine ⟨h.versions.numbered, fun id b hb => ?_, ?_⟩
  · obtain ⟨r, hr, -⟩ := h.consistent.paired id b hb
    obtain ⟨v, hv, hpublished, hanswered⟩ := h.briefings id b r hb hr
    refine ⟨v, r, hv, hr, hpublished, h.versions.accepted _ v hv, hanswered, fun hclosed more => ?_⟩
    have hkept : Consistent (SC06.history validators u s more) ∧
        Closed (SC06.history validators u s more) id b r :=
      history_induction (P := fun s => Consistent s ∧ Closed s id b r)
        (fun _ _ h hm => ⟨h.1.step hm, h.2.step h.1 hm⟩) more ⟨h.consistent, hb, hclosed, hr⟩
    have hversion : (SC06.history validators u s more).versions[b.templateVersion]? = some v :=
      history_induction (P := fun s => s.versions[b.templateVersion]? = some v)
        (fun _ _ h hm => published_step h hpublished hm) more hv
    exact ⟨hkept.2.briefing, hversion, hkept.2.run⟩
  · intro name document user template now created started id s' hcreate
    obtain ⟨b, r, version, rfl, rfl, -, rfl, hlatest, -⟩ := createBriefing_ok hcreate
    obtain ⟨v, hv, htemplate, hpublished, hgreatest⟩ := latestPublishedVersion_some hlatest
    exact ⟨b, v, List.getElem?_concat_length, hv, htemplate, hpublished, hgreatest⟩

end Grounded

end SheepContabil.SC06
