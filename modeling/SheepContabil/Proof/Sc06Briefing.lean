import SheepContabil.Py.Rows
import SheepContabil.Spec.Sc06Briefing

/-!
# SC-06: a briefing and its run

Four operations write the briefing and its run, each in one transaction and only on a draft.

* `perform_moves`: all that a call can do to the tables.
* `Consistent`: every briefing has a run of its own, in the state that matches.
* `lifecycle`: over any calls the pair stays matched, a closed briefing is never written again, and a
  published version keeps its schema.
-/

namespace SheepContabil.SC06

open Operation

section Operations

variable {α β : Type} {s s' : Portal}

/-- An operation that returns got past each of its steps. -/
theorem bind_ok {x : Operation α} {f : α → Operation β} {b : β} :
    (x >>= f) s = (.ok b, s') ↔ ∃ a t, x s = (.ok a, t) ∧ f a t = (.ok b, s') := by
  simp only [Bind.bind]
  rcases x s with ⟨e | a, t⟩
  · simp
  · simp

theorem pure_ok {a b : α} : (pure a : Operation α) s = (.ok b, s') ↔ a = b ∧ s = s' := by
  change ((.ok a, s) : Except Refusal α × Portal) = _ ↔ _
  simp

theorem refuse_ok {e : Refusal} {b : α} : refuse e s = (.ok b, s') ↔ False := by
  simp [refuse]

theorem get_ok {t : Portal} : Operation.get s = (.ok t, s') ↔ s = t ∧ s = s' := by
  simp [Operation.get]

theorem row_ok {found : Portal → Option α} {a : α} :
    row found s = (.ok a, s') ↔ found s = some a ∧ s = s' := by
  unfold row
  cases found s with
  | none => simp
  | some b => simp

theorem recordRunEvent_ok {raised : Option Refusal} {a : Unit} :
    recordRunEvent raised s = (.ok a, s') → s = s' := by
  cases raised with
  | none => exact fun h => (pure_ok.mp h).2
  | some e => exact fun h => (refuse_ok.mp h).elim

/-- **A transaction is done whole, or not at all.** -/
theorem atomic_cases (x : Operation α) (s : Portal) :
    (∃ a s', atomic x s = (.ok a, s') ∧ x s = (.ok a, s')) ∨ ∃ e, atomic x s = (.error e, s) := by
  unfold atomic
  rcases x s with ⟨e | a, t⟩
  · exact .inr ⟨e, rfl⟩
  · exact .inl ⟨a, t, rfl, rfl⟩

theorem requireDraft_ok {b : Briefing} {a : Unit} (h : requireDraft b s = (.ok a, s')) :
    b.status = .draft ∧ s = s' := by
  unfold requireDraft at h
  split at h
  · next hdraft => exact ⟨hdraft, (pure_ok.mp h).2⟩
  · exact (refuse_ok.mp h).elim

/-- An operation on a draft reads its row first. -/
theorem draft_ok {id : ℕ} {k : Briefing → Operation α} {a : α}
    (h : (do let b ← lockedBriefing id; requireDraft b; k b : Operation α) s = (.ok a, s')) :
    ∃ b, s.briefings[id]? = some b ∧ b.status = .draft ∧ k b s = (.ok a, s') := by
  obtain ⟨b, t, hrow, h⟩ := bind_ok.mp h
  obtain ⟨hb, rfl⟩ := row_ok.mp hrow
  obtain ⟨_, t, hrequire, h⟩ := bind_ok.mp h
  obtain ⟨hdraft, rfl⟩ := requireDraft_ok hrequire
  exact ⟨b, hb, hdraft, h⟩

theorem saveBriefing_ok {id : ℕ} {b : Briefing} {a : Unit} (h : saveBriefing id b s = (.ok a, s')) :
    s' = { s with briefings := s.briefings.set id b } := by
  unfold saveBriefing at h
  split at h
  · cases h
  · split at h
    · exact (Prod.mk.inj h).2.symm
    · cases h

theorem saveRun_ok {id : RunId} {r : BriefingRun} {a : Unit} (h : saveRun id r s = (.ok a, s')) :
    s' = { s with runs := s.runs.set id r } :=
  (Prod.mk.inj h).2.symm

theorem sanitizedAnswers_ok {validators : Validators} {u : Unicode} {b : Briefing}
    {answers : QuestionId → Option RawAnswer} {requireComplete : Bool}
    {stored : List (QuestionId × Answer)}
    (h : sanitizedAnswers validators u b answers requireComplete s = (.ok stored, s')) : s = s' := by
  unfold sanitizedAnswers at h
  obtain ⟨version, t, hrow, h⟩ := bind_ok.mp h
  obtain ⟨-, rfl⟩ := row_ok.mp hrow
  by_cases haccepted : version.schema.accepted validators = true
  · rw [if_pos haccepted] at h
    cases hsanitized : sanitizeAnswers validators u answers requireComplete version.schema with
    | ok value =>
      rw [hsanitized] at h
      exact (pure_ok.mp h).2
    | error errors =>
      rw [hsanitized] at h
      exact (refuse_ok.mp h).elim
  · rw [if_neg haccepted] at h
    exact (refuse_ok.mp h).elim

end Operations

section Moves

/-- A briefing and its run are in the same state. -/
structure Paired (b : Briefing) (r : BriefingRun) : Prop where
  draft : b.status = .draft ↔ r.status = .running
  completed : b.status = .completed ↔ r.status = .succeeded
  cancelled : b.status = .cancelled ↔ r.status = .cancelled
  audit : b.status = .completed →
    r.finishedAt = b.completedAt ∧ b.completedAt.isSome = true ∧ b.completedBy.isSome = true

/-- All that a call can do to the tables. -/
inductive Moves (s : Portal) : Portal → Prop
  | refused : Moves s s
  | created (b : Briefing) (r : BriefingRun) : b.run = s.runs.length → Paired b r →
      Moves s { s with runs := s.runs ++ [r], briefings := s.briefings ++ [b] }
  | written (id : ℕ) (b b' : Briefing) (r r' : BriefingRun) : s.briefings[id]? = some b →
      b.status = .draft → s.runs[b.run]? = some r → b'.run = b.run → (Paired b r → Paired b' r') →
      Moves s { s with briefings := s.briefings.set id b', runs := s.runs.set b.run r' }
  | versioned (versions : List TemplateVersion) :
      (∀ (i : ℕ) (v : TemplateVersion), s.versions[i]? = some v → v.status = .published → versions[i]? = some v) →
      Moves s { s with versions := versions }

variable {validators : Validators} {u : Unicode} {s s' : Portal}

/-- An atomic operation moves the tables as its body does, when it returns. -/
theorem atomic_moves {α : Type} {x : Operation α}
    (h : ∀ a t, x s = (.ok a, t) → Moves s t) : Moves s (atomic x s).2 := by
  rcases atomic_cases x s with ⟨a, t, hatomic, hbody⟩ | ⟨e, hatomic⟩
  · rw [hatomic]; exact h a t hbody
  · rw [hatomic]; exact .refused

theorem createBriefing_moves (name document template : Text) (user now : ℕ)
    (created started : Option Refusal) :
    Moves s (createBriefing name document user template now created started s).2 := by
  refine atomic_moves fun id s' hbody => ?_
  obtain ⟨s₁, s₂, hget, hbody⟩ := bind_ok.mp hbody
  obtain ⟨rfl, rfl⟩ := get_ok.mp hget
  cases hversion : latestPublishedVersion template s with
  | none =>
    rw [hversion] at hbody
    exact (refuse_ok.mp hbody).elim
  | some version =>
    rw [hversion] at hbody
    dsimp only at hbody
    by_cases hmodule : s.hasModule = true
    · rw [if_pos hmodule] at hbody
      obtain ⟨run, s₃, hrun, hbody⟩ := bind_ok.mp hbody
      obtain ⟨briefing, s₄, hrow, hbody⟩ := bind_ok.mp hbody
      obtain ⟨_, s₅, hcreated, hbody⟩ := bind_ok.mp hbody
      obtain ⟨_, s₆, hstarted, hbody⟩ := bind_ok.mp hbody
      obtain ⟨-, rfl⟩ := pure_ok.mp hbody
      obtain rfl := recordRunEvent_ok hcreated
      obtain rfl := recordRunEvent_ok hstarted
      obtain ⟨hid, rfl⟩ := Prod.mk.inj hrun
      -- only the row of the briefing can still be refused
      unfold createRow at hrow
      split at hrow
      · obtain ⟨-, rfl⟩ := Prod.mk.inj hrow
        refine Moves.created _ _ (Except.ok.inj hid).symm ⟨?_, ?_, ?_, ?_⟩
        · simp
        · simp
        · simp
        · simp
      · cases hrow
    · rw [if_neg hmodule] at hbody
      exact (refuse_ok.mp hbody).elim

/-- A draft stays a draft, and its run goes on. -/
theorem Paired.kept {b b' : Briefing} {r r' : BriefingRun} (hdraft : b.status = .draft)
    (hb : b'.status = b.status) (hr : r'.status = r.status) (h : Paired b r) : Paired b' r' := by
  have hrunning := h.draft.mp hdraft
  constructor <;> simp [hb, hr, hdraft, hrunning]

theorem saveBriefingDraft_moves (id : ℕ) (answers : QuestionId → Option RawAnswer) :
    Moves s (saveBriefingDraft validators u id answers s).2 := by
  refine atomic_moves fun _ s' hbody => ?_
  obtain ⟨b, hb, hdraft, hbody⟩ := draft_ok hbody
  obtain ⟨stored, t, hsanitized, hbody⟩ := bind_ok.mp hbody
  obtain rfl := sanitizedAnswers_ok hsanitized
  obtain ⟨_, t, hsave, hbody⟩ := bind_ok.mp hbody
  obtain rfl := saveBriefing_ok hsave
  obtain ⟨r, t, hrun, hbody⟩ := bind_ok.mp hbody
  obtain ⟨hr, rfl⟩ := row_ok.mp hrun
  rw [saveRun_ok hbody]
  exact Moves.written id b _ r _ hb hdraft hr rfl (Paired.kept hdraft rfl rfl)

theorem completeBriefing_moves (id : ℕ) (answers : QuestionId → Option RawAnswer)
    (completedBy now : ℕ) (recorded : Option Refusal) :
    Moves s (completeBriefing validators u id answers completedBy now recorded s).2 := by
  refine atomic_moves fun _ s' hbody => ?_
  obtain ⟨b, hb, hdraft, hbody⟩ := draft_ok hbody
  obtain ⟨stored, t, hsanitized, hbody⟩ := bind_ok.mp hbody
  obtain rfl := sanitizedAnswers_ok hsanitized
  obtain ⟨_, t, hsave, hbody⟩ := bind_ok.mp hbody
  obtain rfl := saveBriefing_ok hsave
  obtain ⟨version, t, hversion, hbody⟩ := bind_ok.mp hbody
  obtain ⟨-, rfl⟩ := row_ok.mp hversion
  obtain ⟨r, t, hrun, hbody⟩ := bind_ok.mp hbody
  obtain ⟨hr, rfl⟩ := row_ok.mp hrun
  obtain ⟨_, t, hsaveRun, hbody⟩ := bind_ok.mp hbody
  obtain rfl := saveRun_ok hsaveRun
  obtain rfl := recordRunEvent_ok hbody
  exact Moves.written id b _ r _ hb hdraft hr rfl fun _ =>
    ⟨by simp, by simp, by simp, fun _ => ⟨rfl, rfl, rfl⟩⟩

theorem cancelBriefing_moves (id : ℕ) (cancelledBy : ℕ) (label : String) (now : ℕ)
    (recorded : Option Refusal) : Moves s (cancelBriefing id cancelledBy label now recorded s).2 := by
  refine atomic_moves fun _ s' hbody => ?_
  obtain ⟨b, hb, hdraft, hbody⟩ := draft_ok hbody
  obtain ⟨_, t, hsave, hbody⟩ := bind_ok.mp hbody
  obtain rfl := saveBriefing_ok hsave
  obtain ⟨r, t, hrun, hbody⟩ := bind_ok.mp hbody
  obtain ⟨hr, rfl⟩ := row_ok.mp hrun
  obtain ⟨_, t, hsaveRun, hbody⟩ := bind_ok.mp hbody
  obtain rfl := saveRun_ok hsaveRun
  obtain rfl := recordRunEvent_ok hbody
  exact Moves.written id b _ r _ hb hdraft hr rfl fun _ => ⟨by simp, by simp, by simp, by simp⟩

theorem discardEmptyBriefing_moves (id : ℕ) (now : ℕ) (recorded : Option Refusal) :
    Moves s (discardEmptyBriefing id now recorded s).2 := by
  refine atomic_moves fun _ s' hbody => ?_
  obtain ⟨b, hb, hdraft, hbody⟩ := draft_ok hbody
  by_cases hempty : b.isEmpty = true
  · rw [if_pos hempty] at hbody
    obtain ⟨r, t, hrun, hbody⟩ := bind_ok.mp hbody
    obtain ⟨hr, rfl⟩ := row_ok.mp hrun
    obtain ⟨_, t, hsave, hbody⟩ := bind_ok.mp hbody
    obtain rfl := saveBriefing_ok hsave
    obtain ⟨_, t, hsaveRun, hbody⟩ := bind_ok.mp hbody
    obtain rfl := saveRun_ok hsaveRun
    obtain ⟨_, t, hrecorded, hbody⟩ := bind_ok.mp hbody
    obtain rfl := recordRunEvent_ok hrecorded
    obtain ⟨-, rfl⟩ := pure_ok.mp hbody
    exact Moves.written id b _ r _ hb hdraft hr rfl fun _ => ⟨by simp, by simp, by simp, by simp⟩
  · rw [if_neg hempty] at hbody
    obtain ⟨-, rfl⟩ := pure_ok.mp hbody
    exact .refused

theorem saveVersion_moves (place : Option ℕ) (v : TemplateVersion) (now : ℕ) :
    Moves s (saveVersion validators place v now s).2 := by
  unfold saveVersion
  dsimp only
  generalize (if v.status = .published ∧ v.publishedAt = none then
    { v with publishedAt := some now } else v) = v
  split
  · next previous hprevious =>
    obtain ⟨i, rfl, hi⟩ := Option.bind_eq_some_iff.mp hprevious
    split
    · exact .refused
    · next hsame =>
      split
      · refine Moves.versioned _ fun j w hw hpublished => ?_
        rw [Option.getD_some, List.getElem?_set]
        split
        · next heq =>
          subst heq
          -- a published row is only saved as it is
          rw [hi, Option.some.injEq] at hw
          subst hw
          have hequal : previous = v := by
            by_contra hne
            exact hsame ⟨hpublished, hne⟩
          have hlt : i < s.versions.length := (List.getElem?_eq_some_iff.mp hi).1
          rw [if_pos hlt, hequal]
        · exact hw
      · exact .refused
  · split
    · refine Moves.versioned _ fun j w hw _ => ?_
      have hlt : j < s.versions.length := (List.getElem?_eq_some_iff.mp hw).1
      rw [List.getElem?_append_left hlt, hw]
    · exact .refused

/-- **All that a call can do.** -/
theorem perform_moves (validators : Validators) (u : Unicode) (call : Call) (s : Portal) :
    Moves s (call.perform validators u s).2 := by
  cases call with
  | create name document user template now created started =>
    exact createBriefing_moves name document template user now created started
  | saveDraft id answers => exact saveBriefingDraft_moves id answers
  | complete id answers user now recorded => exact completeBriefing_moves id answers user now recorded
  | cancel id user label now recorded => exact cancelBriefing_moves id user label now recorded
  | discardEmpty id now recorded => exact discardEmptyBriefing_moves id now recorded
  | saveVersion place version now => exact saveVersion_moves place version now

end Moves

section Histories

variable {validators : Validators} {u : Unicode} {s s' : Portal}

/-- Every briefing has a run of its own, in the state that matches. -/
structure Consistent (s : Portal) : Prop where
  paired : ∀ (id : ℕ) (b : Briefing), s.briefings[id]? = some b →
    ∃ r, s.runs[b.run]? = some r ∧ Paired b r
  own : ∀ (i j : ℕ) (b c : Briefing), s.briefings[i]? = some b → s.briefings[j]? = some c →
    b.run = c.run → i = j

/-- **Every call keeps briefings and runs matched.** -/
theorem Consistent.step (h : Consistent s) (hm : Moves s s') : Consistent s' := by
  cases hm with
  | refused => exact h
  | created b r hrun hpaired =>
    -- an older briefing points to an older run, so the new run has one owner
    have hold : ∀ {id : ℕ} {c : Briefing}, s.briefings[id]? = some c → c.run < s.runs.length := by
      intro id c hc
      obtain ⟨r', hr', -⟩ := h.paired id c hc
      exact (List.getElem?_eq_some_iff.mp hr').1
    refine ⟨fun id c hc => ?_, fun i j c c' hc hc' heq => ?_⟩
    · rcases Rows.append_cases hc with hc | ⟨-, rfl⟩
      · obtain ⟨r', hr', hpaired'⟩ := h.paired id c hc
        exact ⟨r', Rows.append_some hr', hpaired'⟩
      · exact ⟨r, by rw [hrun]; simp, hpaired⟩
    · rcases Rows.append_cases hc with hci | ⟨hi, hcb⟩
      · rcases Rows.append_cases hc' with hcj | ⟨hj, hcb'⟩
        · exact h.own i j c c' hci hcj heq
        · have hlt := hold hci
          rw [heq, hcb', hrun] at hlt
          exact absurd hlt (lt_irrefl _)
      · rcases Rows.append_cases hc' with hcj | ⟨hj, hcb'⟩
        · have hlt := hold hcj
          rw [← heq, hcb, hrun] at hlt
          exact absurd hlt (lt_irrefl _)
        · omega
  | written id b b' r r' hb hdraft hr hrun hpaired =>
    have hpair : Paired b r := by
      obtain ⟨r₁, hr₁, hp⟩ := h.paired id b hb
      rw [hr, Option.some.injEq] at hr₁
      exact hr₁ ▸ hp
    -- a briefing keeps its run, so no other one points to the run that is written
    have hold : ∀ {j : ℕ} {c : Briefing}, (s.briefings.set id b')[j]? = some c →
        ∃ c₀, s.briefings[j]? = some c₀ ∧ c.run = c₀.run := by
      intro j c hc
      rcases Rows.set_cases hc with ⟨rfl, rfl⟩ | ⟨-, hc⟩
      · exact ⟨b, hb, hrun⟩
      · exact ⟨c, hc, rfl⟩
    refine ⟨fun j c hc => ?_, fun i j c c' hc hc' heq => ?_⟩
    · rcases Rows.set_cases hc with ⟨rfl, rfl⟩ | ⟨hne, hc⟩
      · exact ⟨r', by rw [hrun]; exact Rows.set_self hr, hpaired hpair⟩
      · obtain ⟨r₁, hr₁, hp⟩ := h.paired j c hc
        have hother : b.run ≠ c.run := fun heq => hne (h.own id j b c hb hc heq).symm
        exact ⟨r₁, by rw [List.getElem?_set_ne hother]; exact hr₁, hp⟩
    · obtain ⟨c₀, hc₀, hrun₀⟩ := hold hc
      obtain ⟨c₁, hc₁, hrun₁⟩ := hold hc'
      exact h.own i j c₀ c₁ hc₀ hc₁ (by rw [← hrun₀, ← hrun₁, heq])
  | versioned versions _ => exact ⟨h.paired, h.own⟩

/-- A closed briefing, its run and a published version, as they are in the tables. -/
structure Closed (s : Portal) (id : ℕ) (b : Briefing) (r : BriefingRun) : Prop where
  briefing : s.briefings[id]? = some b
  closed : b.status ≠ .draft
  run : s.runs[b.run]? = some r

/-- **No call writes a closed briefing or its run.** -/
theorem Closed.step (h : Consistent s) {id : ℕ} {b : Briefing} {r : BriefingRun}
    (hclosed : Closed s id b r) (hm : Moves s s') : Closed s' id b r := by
  have hbriefing := hclosed.briefing
  have hrun := hclosed.run
  cases hm with
  | refused => exact hclosed
  | created b₀ r₀ _ _ =>
    refine ⟨?_, hclosed.closed, ?_⟩
    · exact Rows.append_some hbriefing
    · exact Rows.append_some hrun
  | written id₀ b₀ b' r₀ r' hb₀ hdraft hr₀ _ _ =>
    have hother : id₀ ≠ id := by
      rintro rfl
      rw [hb₀, Option.some.injEq] at hbriefing
      exact hclosed.closed (hbriefing ▸ hdraft)
    have hruns : b₀.run ≠ b.run := fun heq => hother (h.own id₀ id b₀ b hb₀ hbriefing heq)
    refine ⟨?_, hclosed.closed, ?_⟩
    · rw [List.getElem?_set_ne hother, hbriefing]
    · rw [List.getElem?_set_ne hruns, hrun]
  | versioned versions _ => exact ⟨hbriefing, hclosed.closed, hrun⟩

/-- A published version is kept as it is. -/
theorem published_step {i : ℕ} {v : TemplateVersion} (hv : s.versions[i]? = some v)
    (hpublished : v.status = .published) (hm : Moves s s') : s'.versions[i]? = some v := by
  cases hm with
  | refused => exact hv
  | created => exact hv
  | written => exact hv
  | versioned versions hkept => exact hkept i v hv hpublished

/-- What every call preserves, any number of calls preserve. -/
theorem history_induction {P : Portal → Prop} (hstep : ∀ s s', P s → Moves s s' → P s')
    (calls : List Call) (h : P s) : P (history validators u s calls) := by
  induction calls generalizing s with
  | nil => exact h
  | cons call rest ih => exact ih (hstep s _ h (perform_moves validators u call s))

/-- Tables without briefings. -/
theorem Consistent.fresh (hasModule : Bool) (activeTemplates : List Text)
    (versions : List TemplateVersion) :
    Consistent { hasModule := hasModule, activeTemplates := activeTemplates, versions := versions } :=
  ⟨by simp, by simp⟩

/-- A refused call leaves the tables as they are. -/
theorem refused_keeps (call : Call) {e : Refusal} (h : call.perform validators u s = (.error e, s')) :
    s' = s := by
  -- the transaction takes back what the body has written
  have hatomic : ∀ {α : Type} {x : Operation α} {e : Refusal} {t : Portal},
      atomic x s = (.error e, t) → t = s := by
    intro α x e t hx
    rcases atomic_cases x s with ⟨a, t', hok, -⟩ | ⟨e', herror⟩
    · cases hok.symm.trans hx
    · exact (Prod.mk.inj (herror.symm.trans hx)).2.symm
  cases call with
  | create name document user template now created started =>
    simp only [Call.perform] at h
    cases hresult : createBriefing name document user template now created started s with
    | mk result t =>
      rw [hresult] at h
      cases result with
      | ok id => cases h
      | error e' =>
        obtain ⟨-, rfl⟩ := Prod.mk.inj h
        exact hatomic hresult
  | saveDraft id answers => exact hatomic h
  | complete id answers user now recorded => exact hatomic h
  | cancel id user label now recorded => exact hatomic h
  | discardEmpty id now recorded =>
    simp only [Call.perform] at h
    cases hresult : discardEmptyBriefing id now recorded s with
    | mk result t =>
      rw [hresult] at h
      cases result with
      | ok id => cases h
      | error e' =>
        obtain ⟨-, rfl⟩ := Prod.mk.inj h
        exact hatomic hresult
  | saveVersion place v now =>
    simp only [Call.perform, saveVersion] at h
    generalize (if v.status = .published ∧ v.publishedAt = none then
      { v with publishedAt := some now } else v) = v at h
    split at h
    · split at h
      · exact (Prod.mk.inj h).2.symm
      · split at h
        · cases h
        · exact (Prod.mk.inj h).2.symm
    · split at h
      · cases h
      · exact (Prod.mk.inj h).2.symm

/-- **Over any calls, successful or refused, a briefing and its run are in the same state; a refused
call changes nothing; a closed briefing and its run, and a published version, stay as they are.** -/
theorem lifecycle (validators : Validators) (u : Unicode) (hasModule : Bool)
    (activeTemplates : List Text) (versions : List TemplateVersion) (calls : List Call) :
    let s := history validators u
      { hasModule := hasModule, activeTemplates := activeTemplates, versions := versions } calls
    (∀ (id : ℕ) (b : Briefing), s.briefings[id]? = some b →
      ∃ r, s.runs[b.run]? = some r ∧ Paired b r) ∧
    (∀ (call : Call) (e : Refusal) (s' : Portal),
      call.perform validators u s = (.error e, s') → s' = s) ∧
    (∀ (id : ℕ) (b : Briefing) (r : BriefingRun) (more : List Call), s.briefings[id]? = some b →
      b.status ≠ .draft → s.runs[b.run]? = some r →
      (history validators u s more).briefings[id]? = some b ∧
        (history validators u s more).runs[b.run]? = some r) ∧
    (∀ (i : ℕ) (v : TemplateVersion) (more : List Call), s.versions[i]? = some v →
      v.status = .published → (history validators u s more).versions[i]? = some v) := by
  intro s
  have hconsistent : Consistent s :=
    history_induction (fun _ _ h hm => h.step hm) calls (Consistent.fresh _ _ _)
  refine ⟨hconsistent.paired, fun call e s' h => refused_keeps call h, ?_, ?_⟩
  · intro id b r more hb hclosed hr
    have hkept : Consistent (history validators u s more) ∧
        Closed (history validators u s more) id b r :=
      history_induction (P := fun s => Consistent s ∧ Closed s id b r)
        (fun _ _ h hm => ⟨h.1.step hm, h.2.step h.1 hm⟩) more ⟨hconsistent, hb, hclosed, hr⟩
    exact ⟨hkept.2.briefing, hkept.2.run⟩
  · intro i v more hv hpublished
    exact history_induction (P := fun s => s.versions[i]? = some v)
      (fun _ _ h hm => published_step h hpublished hm) more hv

end Histories

end SheepContabil.SC06
