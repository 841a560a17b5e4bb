import SheepContabil.Proof.Sc06Briefing
import SheepContabil.Spec.Sc06Cleanup

/-!
# SC-06: the cleanup of empty drafts

The command works from a reading that others may have overtaken by the time a draft has its turn.

* `Keeps`: what the writes of an operation keep, the operation keeps.
* `perform_keeps`, `handleDrafts_keeps`: the same of a call, and of the command with all that others
  call meanwhile.
* `cleanup_any_interleaving`: no draft that holds an answer is cancelled, and the command stops early
  only when somebody closed a draft it had read, or an event is refused.
* `cleanup_alone`: by itself it cancels the empty drafts, all of them, and nothing else.
-/

namespace SheepContabil.SC06

open Operation

section Keeping

variable {α β : Type} {P : Portal → Prop}

/-- An operation keeps a property of the tables, whether it returns or raises. -/
def Operation.Keeps (P : Portal → Prop) (x : Operation α) : Prop := ∀ s, P s → P (x s).2

theorem keeps_pure (a : α) : Keeps P (pure a : Operation α) := fun _ h => h

theorem keeps_refuse (e : Refusal) : Keeps P (refuse e : Operation α) := fun _ h => h

theorem keeps_get : Keeps P Operation.get := fun _ h => h

theorem keeps_row (found : Portal → Option α) : Keeps P (row found) := by
  intro s h
  unfold row
  cases found s with
  | none => exact h
  | some a => exact h

theorem keeps_bind {x : Operation α} {f : α → Operation β} (hx : Keeps P x)
    (hf : ∀ a, Keeps P (f a)) : Keeps P (x >>= f) := by
  intro s h
  have hmiddle := hx s h
  simp only [Bind.bind]
  cases hxs : x s with
  | mk result t =>
    rw [hxs] at hmiddle
    cases result with
    | error e => exact hmiddle
    | ok a => exact hf a t hmiddle

/-- A transaction leaves the tables of its body, or those it began with. -/
theorem keeps_atomic {x : Operation α} (hx : Keeps P x) : Keeps P (atomic x) := by
  intro s h
  rcases atomic_cases x s with ⟨a, t, hatomic, hbody⟩ | ⟨e, hatomic⟩
  · have hafter := hx s h
    rw [hbody] at hafter
    rw [hatomic]
    exact hafter
  · rw [hatomic]
    exact h

theorem keeps_recordRunEvent (raised : Option Refusal) : Keeps P (recordRunEvent raised) := by
  cases raised with
  | none => exact keeps_pure ()
  | some e => exact keeps_refuse e

/-- An operation on a draft goes on with a draft. -/
theorem keeps_draft {id : ℕ} {k : Briefing → Operation α}
    (hk : ∀ b, b.status = .draft → Keeps P (k b)) :
    Keeps P (do let b ← lockedBriefing id; requireDraft b; k b : Operation α) := by
  refine keeps_bind (keeps_row _) fun b => ?_
  unfold requireDraft
  by_cases hdraft : b.status = .draft
  · rw [if_pos hdraft]
    exact keeps_bind (keeps_pure ()) fun _ => hk b hdraft
  · rw [if_neg hdraft]
    exact fun _ h => h

theorem keeps_sanitizedAnswers (validators : Validators) (u : Unicode) (b : Briefing)
    (answers : QuestionId → Option RawAnswer) (requireComplete : Bool) :
    Keeps P (sanitizedAnswers validators u b answers requireComplete) := by
  refine keeps_bind (keeps_row _) fun version => ?_
  split
  · split
    · exact keeps_pure _
    · exact keeps_refuse _
  · exact keeps_refuse _

/-- Only a briefing that the row may hold is written. -/
theorem keeps_saveBriefing {id : ℕ} {b : Briefing}
    (h : ∀ s, P s → b.auditConsistent = true → P { s with briefings := s.briefings.set id b }) :
    Keeps P (saveBriefing id b) := by
  intro s hs
  unfold saveBriefing
  split
  · exact hs
  · split
    · next haudit => exact h s hs haudit
    · exact hs

theorem keeps_createRow {b : Briefing}
    (h : ∀ s, P s → b.auditConsistent = true → P { s with briefings := s.briefings ++ [b] }) :
    Keeps P (createRow b) := by
  intro s hs
  unfold createRow
  split
  · next hchecks => exact h s hs hchecks.2.2
  · exact hs

end Keeping

section Calls

/-- The state in which a call closes a briefing, when it does. -/
def Call.closes : Call → ℕ → BriefingStatus → Prop
  | .complete id .., i, status => i = id ∧ status = .completed
  | .cancel id .., i, status => i = id ∧ status = .cancelled
  | .discardEmpty id .., i, status => i = id ∧ status = .cancelled
  | _, _, _ => False

/-- A property that the writes of a call keep. -/
structure Kept (P : Portal → Prop) (closes : ℕ → BriefingStatus → Prop) : Prop where
  runs : ∀ s runs, P s → P { s with runs := runs }
  versions : ∀ s versions, P s → P { s with versions := versions }
  created : ∀ s b, P s → b.auditConsistent = true → b.status = .draft →
    P { s with briefings := s.briefings ++ [b] }
  written : ∀ s id b, P s → b.auditConsistent = true → b.status = .draft ∨ closes id b.status →
    P { s with briefings := s.briefings.set id b }

variable {validators : Validators} {u : Unicode} {P : Portal → Prop} {s : Portal}
  {closes : ℕ → BriefingStatus → Prop}

theorem Kept.saveRun (h : Kept P closes) (id : RunId) (r : BriefingRun) : Keeps P (saveRun id r) :=
  fun s hs => h.runs s _ hs

theorem Kept.saveBriefing (h : Kept P closes) {id : ℕ} {b : Briefing}
    (hb : b.status = .draft ∨ closes id b.status) : Keeps P (saveBriefing id b) :=
  keeps_saveBriefing fun s hs haudit => h.written s id b hs haudit hb

theorem createBriefing_keeps (h : Kept P closes) (name document template : Text) (user now : ℕ)
    (created started : Option Refusal) :
    Keeps P (createBriefing name document user template now created started) := by
  refine keeps_atomic (keeps_bind keeps_get fun s => ?_)
  split
  · exact keeps_refuse _
  · split
    · refine keeps_bind (fun t ht => h.runs t _ ht) fun run => ?_
      refine keeps_bind (keeps_createRow fun t ht haudit => h.created t _ ht haudit rfl) fun id => ?_
      exact keeps_bind (keeps_recordRunEvent created) fun _ =>
        keeps_bind (keeps_recordRunEvent started) fun _ => keeps_pure id
    · exact keeps_refuse _

theorem saveBriefingDraft_keeps (h : Kept P closes) (id : ℕ) (answers : QuestionId → Option RawAnswer) :
    Keeps P (saveBriefingDraft validators u id answers) := by
  refine keeps_atomic (keeps_draft fun b hdraft => ?_)
  refine keeps_bind (keeps_sanitizedAnswers validators u b answers _) fun stored => ?_
  refine keeps_bind (h.saveBriefing (.inl hdraft)) fun _ => ?_
  exact keeps_bind (keeps_row _) fun r => h.saveRun _ _

theorem completeBriefing_keeps (h : Kept P closes) {id : ℕ} (hid : closes id .completed)
    (answers : QuestionId → Option RawAnswer) (completedBy now : ℕ) (recorded : Option Refusal) :
    Keeps P (completeBriefing validators u id answers completedBy now recorded) := by
  refine keeps_atomic (keeps_draft fun b _ => ?_)
  refine keeps_bind (keeps_sanitizedAnswers validators u b answers _) fun stored => ?_
  refine keeps_bind (h.saveBriefing (.inr hid)) fun _ => ?_
  refine keeps_bind (keeps_row _) fun version => ?_
  refine keeps_bind (keeps_row _) fun r => ?_
  exact keeps_bind (h.saveRun _ _) fun _ => keeps_recordRunEvent recorded

theorem cancelBriefing_keeps (h : Kept P closes) {id : ℕ} (hid : closes id .cancelled)
    (cancelledBy : ℕ) (label : String) (now : ℕ) (recorded : Option Refusal) :
    Keeps P (cancelBriefing id cancelledBy label now recorded) := by
  refine keeps_atomic (keeps_draft fun b _ => ?_)
  refine keeps_bind (h.saveBriefing (.inr hid)) fun _ => ?_
  refine keeps_bind (keeps_row _) fun r => ?_
  exact keeps_bind (h.saveRun _ _) fun _ => keeps_recordRunEvent recorded

/-- Only an empty draft is discarded. -/
theorem discardEmptyBriefing_keeps {id : ℕ} (hruns : ∀ s runs, P s → P { s with runs := runs })
    (hwritten : ∀ s (b : Briefing), P s → b.isEmpty = true → b.status = .cancelled →
      b.auditConsistent = true → P { s with briefings := s.briefings.set id b })
    (now : ℕ) (recorded : Option Refusal) : Keeps P (discardEmptyBriefing id now recorded) := by
  refine keeps_atomic (keeps_draft fun b _ => ?_)
  by_cases hempty : b.isEmpty = true
  · rw [if_pos hempty]
    refine keeps_bind (keeps_row _) fun r => ?_
    refine keeps_bind (keeps_saveBriefing fun s hs haudit =>
      hwritten s _ hs hempty rfl haudit) fun _ => ?_
    refine keeps_bind (fun s hs => hruns s _ hs) fun _ => ?_
    exact keeps_bind (keeps_recordRunEvent recorded) fun _ => keeps_pure true
  · rw [if_neg hempty]
    exact keeps_pure false

theorem saveVersion_keeps (h : Kept P closes) (place : Option ℕ) (v : TemplateVersion) (now : ℕ) :
    Keeps P (saveVersion validators place v now) := by
  intro s hs
  unfold saveVersion
  dsimp only
  generalize (if v.status = .published ∧ v.publishedAt = none then
    { v with publishedAt := some now } else v) = v
  split
  · split
    · exact hs
    · split
      · exact h.versions s _ hs
      · exact hs
  · split
    · exact h.versions s _ hs
    · exact hs

/-- **What the writes of a call keep, the call keeps.** -/
theorem perform_keeps (call : Call) (h : Kept P call.closes) (hs : P s) :
    P (call.perform validators u s).2 := by
  cases call with
  | create name document user template now created started =>
    exact createBriefing_keeps h name document template user now created started s hs
  | saveDraft id answers => exact saveBriefingDraft_keeps h id answers s hs
  | complete id answers user now recorded =>
    exact completeBriefing_keeps h ⟨rfl, rfl⟩ answers user now recorded s hs
  | cancel id user label now recorded =>
    exact cancelBriefing_keeps h ⟨rfl, rfl⟩ user label now recorded s hs
  | discardEmpty id now recorded =>
    refine discardEmptyBriefing_keeps h.runs (fun t b ht _ hcancelled haudit => ?_) now recorded s hs
    exact h.written t id b ht haudit (.inr ⟨rfl, hcancelled⟩)
  | saveVersion place version now => exact saveVersion_keeps h place version now s hs

/-- What the calls keep of the tables they meet, the history keeps. -/
theorem history_met (calls : List Call)
    (h : ∀ step ∈ met validators u s calls, P step.2 → P (step.1.perform validators u step.2).2)
    (hs : P s) : P (history validators u s calls) := by
  induction calls generalizing s with
  | nil => exact hs
  | cons call rest ih =>
    exact ih (fun step hstep => h step (List.mem_cons_of_mem _ hstep))
      (h (call, s) List.mem_cons_self hs)

end Calls

section Tables

/-- The tables that the module and the check constraint of the briefings allow. -/
structure Sound (s : Portal) : Prop where
  consistent : Consistent s
  audit : ∀ (id : ℕ) (b : Briefing), s.briefings[id]? = some b → b.auditConsistent = true

theorem kept_audit (closes : ℕ → BriefingStatus → Prop) :
    Kept (fun s => ∀ (id : ℕ) (b : Briefing), s.briefings[id]? = some b → b.auditConsistent = true)
      closes where
  runs _ _ h := h
  versions _ _ h := h
  created s b h haudit _ id c hc := by
    rcases Rows.append_cases hc with hc | ⟨-, rfl⟩
    · exact h id c hc
    · exact haudit
  written s id b h haudit _ j c hc := by
    rcases Rows.set_cases hc with ⟨-, rfl⟩ | ⟨-, hc⟩
    · exact haudit
    · exact h j c hc

variable {validators : Validators} {u : Unicode} {s : Portal}

theorem Sound.history (h : Sound s) (calls : List Call) : Sound (history validators u s calls) where
  consistent := history_induction (fun _ _ h hm => h.step hm) calls h.consistent
  audit := history_met calls (fun step _ => perform_keeps step.1 (kept_audit step.1.closes)) h.audit

theorem Sound.discard (h : Sound s) (id now : ℕ) (recorded : Option Refusal) :
    Sound (discardEmptyBriefing id now recorded s).2 where
  consistent := h.consistent.step (discardEmptyBriefing_moves id now recorded)
  audit := by
    have hkept := kept_audit fun _ _ => True
    exact discardEmptyBriefing_keeps hkept.runs
      (fun t b ht _ _ haudit => hkept.written t id b ht haudit (.inr trivial)) now recorded s h.audit

/-- A draft as a discard leaves it. -/
def Briefing.discarded (b : Briefing) : Briefing := { b with status := .cancelled }

/-- The run of a draft as a discard leaves it. -/
def BriefingRun.discarded (r : BriefingRun) (now : ℕ) : BriefingRun :=
  { r with
    status := .cancelled
    finishedAt := some now
    summary := "Rascunho vazio descartado antes do preenchimento." }

/-- The tables after the discard of a draft. -/
def Portal.discard (s : Portal) (id : ℕ) (b : Briefing) (r : BriefingRun) (now : ℕ) : Portal :=
  { s with
    briefings := s.briefings.set id b.discarded
    runs := s.runs.set b.run (r.discarded now) }

/-- **What a discard does**: it refuses a closed briefing, keeps a draft that holds an answer, and
cancels an empty one with its run unless the event is refused. -/
theorem discardEmptyBriefing_eq (h : Sound s) {id : ℕ} {b : Briefing} {r : BriefingRun}
    (hb : s.briefings[id]? = some b) (hr : s.runs[b.run]? = some r) (now : ℕ)
    (recorded : Option Refusal) :
    discardEmptyBriefing id now recorded s =
      if b.status = .draft then
        if b.isEmpty then recorded.elim (.ok true, s.discard id b r now) fun e => (.error e, s)
        else (.ok false, s)
      else (.error (.validation "Somente um briefing em elaboração pode receber respostas."), s) := by
  have hlocked : lockedBriefing id s = (.ok b, s) := row_ok.mpr ⟨hb, rfl⟩
  have hrow : (row fun s => s.runs[b.run]?) s = (.ok r, s) := row_ok.mpr ⟨hr, rfl⟩
  have haudit := h.audit id b hb
  by_cases hdraft : b.status = .draft
  · have hsave : saveBriefing id b.discarded s =
        (.ok (), { s with briefings := s.briefings.set id b.discarded }) := by
      have hdiscarded : b.discarded.auditConsistent = true := by
        simpa [Briefing.auditConsistent, Briefing.discarded, hdraft] using haudit
      simp [saveBriefing, hb, hdraft, hdiscarded]
    rw [if_pos hdraft]
    by_cases hempty : b.isEmpty = true
    · rw [if_pos hempty]
      unfold Briefing.discarded at hsave
      cases recorded with
      | none =>
        simp [discardEmptyBriefing, atomic, Bind.bind, Pure.pure, hlocked, requireDraft, hdraft, hempty,
          hrow, hsave, saveRun, recordRunEvent, Portal.discard, Briefing.discarded, BriefingRun.discarded]
      | some e =>
        simp [discardEmptyBriefing, atomic, Bind.bind, Pure.pure, hlocked, requireDraft, hdraft, hempty,
          hrow, hsave, saveRun, recordRunEvent, refuse]
    · rw [if_neg hempty]
      simp [discardEmptyBriefing, atomic, Bind.bind, Pure.pure, hlocked, requireDraft, hdraft, hempty]
  · rw [if_neg hdraft]
    simp [discardEmptyBriefing, atomic, Bind.bind, hlocked, requireDraft, hdraft, refuse]

end Tables

section Closing

variable {validators : Validators} {u : Unicode} {s s' : Portal}

/-- A call that returns finds the briefing a draft, and leaves it in this state. -/
structure Call.ClosedIn (validators : Validators) (u : Unicode) (call : Call) (s : Portal) (id : ℕ)
    (status : BriefingStatus) : Prop where
  closes : call.closes id status
  returned : (call.perform validators u s).1 = .ok ()
  draft : ∃ b, s.briefings[id]? = some b ∧ b.status = .draft
  closed : ∃ b, (call.perform validators u s).2.briefings[id]? = some b ∧ b.status = status

/-- An operation on a draft that returns has found one. -/
theorem draft_of_ok {α : Type} {id : ℕ} {k : Briefing → Operation α} {a : α}
    (h : atomic (do let b ← lockedBriefing id; requireDraft b; k b : Operation α) s = (.ok a, s')) :
    ∃ b, s.briefings[id]? = some b ∧ b.status = .draft := by
  rcases atomic_cases (do let b ← lockedBriefing id; requireDraft b; k b : Operation α) s with
    ⟨a', t, -, hbody⟩ | ⟨e, herror⟩
  · obtain ⟨b, s₁, hlocked, hbody⟩ := bind_ok.mp hbody
    obtain ⟨hb, rfl⟩ := row_ok.mp hlocked
    obtain ⟨_, s₂, hdraft, -⟩ := bind_ok.mp hbody
    exact ⟨b, hb, (requireDraft_ok hdraft).1⟩
  · cases herror.symm.trans h

/-- A call that closes a briefing, when it returns, has found it a draft. -/
theorem draft_of_closes {call : Call} {id : ℕ} {status : BriefingStatus}
    (hcloses : call.closes id status) (h : (call.perform validators u s).1 = .ok ()) :
    ∃ b, s.briefings[id]? = some b ∧ b.status = .draft := by
  cases call with
  | complete place answers user now recorded =>
    obtain ⟨rfl, -⟩ := hcloses
    exact draft_of_ok (Prod.ext h rfl)
  | cancel place user label now recorded =>
    obtain ⟨rfl, -⟩ := hcloses
    exact draft_of_ok (Prod.ext h rfl)
  | discardEmpty place now recorded =>
    obtain ⟨rfl, -⟩ := hcloses
    simp only [Call.perform] at h
    cases hresult : discardEmptyBriefing id now recorded s with
    | mk result t =>
      rw [hresult] at h
      cases result with
      | ok emptied => exact draft_of_ok hresult
      | error e => cases h
  | create | saveDraft | saveVersion => cases hcloses

/-- **What a call does to a briefing**: it leaves a draft, or the row it met, or it closes it. -/
theorem perform_row (call : Call) {id : ℕ} {b : Briefing}
    (h : (call.perform validators u s).2.briefings[id]? = some b) :
    b.status = .draft ∨ s.briefings[id]? = some b ∨ call.ClosedIn validators u s id b.status := by
  have hkept : Kept (fun t => ∀ (i : ℕ) (c : Briefing), t.briefings[i]? = some c →
      c.status = .draft ∨ s.briefings[i]? = some c ∨ call.closes i c.status) call.closes := by
    refine ⟨fun _ _ h => h, fun _ _ h => h, fun t c ht _ hdraft i c' hc' => ?_,
      fun t j c ht _ hc i c' hc' => ?_⟩
    · rcases Rows.append_cases hc' with hc' | ⟨-, rfl⟩
      · exact ht i c' hc'
      · exact .inl hdraft
    · rcases Rows.set_cases hc' with ⟨rfl, rfl⟩ | ⟨-, hc'⟩
      · exact hc.imp_right .inr
      · exact ht i c' hc'
  have hafter := @perform_keeps validators u _ s call hkept fun i c hc => .inr (.inl hc)
  rcases hafter id b h with hdraft | hsame | hcloses
  · exact .inl hdraft
  · exact .inr (.inl hsame)
  · cases hresult : call.perform validators u s with
    | mk result t =>
      cases result with
      | error e =>
        obtain rfl := refused_keeps call hresult
        rw [hresult] at h
        exact .inr (.inl h)
      | ok returned =>
        have hreturned : (call.perform validators u s).1 = .ok () := by rw [hresult]
        exact .inr (.inr ⟨hcloses, hreturned, draft_of_closes hcloses hreturned, b, h, rfl⟩)

/-- No call removes a briefing. -/
theorem Moves.row_some (h : Moves s s') {id : ℕ} {b : Briefing} (hb : s.briefings[id]? = some b) :
    ∃ b', s'.briefings[id]? = some b' := by
  cases h with
  | refused => exact ⟨b, hb⟩
  | created => exact ⟨b, Rows.append_some hb⟩
  | written i c c' r r' hc =>
    by_cases heq : i = id
    · subst heq
      exact ⟨c', Rows.set_self hb⟩
    · exact ⟨b, (List.getElem?_set_ne heq).trans hb⟩
  | versioned => exact ⟨b, hb⟩

/-- One of the calls closes the briefing, on the tables it meets. -/
def ClosedBy (validators : Validators) (u : Unicode) (others : List (Call × Portal)) (id : ℕ)
    (status : BriefingStatus) : Prop :=
  ∃ step ∈ others, step.1.ClosedIn validators u step.2 id status

end Closing

section Loop

variable {validators : Validators} {u : Unicode} {dryRun : Bool} {turn : ℕ → Turn} {s : Portal}

theorem mem_drafts {id : ℕ} {b : Briefing} :
    (id, b) ∈ s.drafts ↔ s.briefings[id]? = some b ∧ b.status = .draft := by
  constructor
  · intro hmem
    obtain ⟨i, -, hi⟩ := List.mem_filterMap.mp hmem
    obtain ⟨c, hc, hi⟩ := Option.bind_eq_some_iff.mp hi
    split at hi
    · next hdraft =>
      obtain ⟨rfl, rfl⟩ := Prod.mk.inj (Option.some.inj hi)
      exact ⟨hc, hdraft⟩
    · cases hi
  · rintro ⟨hb, hdraft⟩
    refine List.mem_filterMap.mpr ⟨id, ?_, ?_⟩
    · simpa using (List.getElem?_eq_some_iff.mp hb).1
    · simp [hb, hdraft]

/-- No draft is read twice. -/
theorem drafts_nodup (s : Portal) : (s.drafts.map Prod.fst).Nodup := by
  have hplace : ∀ {i j : ℕ}, (((s.briefings[i]?).bind fun b =>
      if b.status = .draft then some (i, b) else none).map Prod.fst) = some j → i = j := by
    intro i j hij
    obtain ⟨p, hp, rfl⟩ := Option.map_eq_some_iff.mp hij
    obtain ⟨b, -, hp⟩ := Option.bind_eq_some_iff.mp hp
    split at hp
    · rw [← Option.some.inj hp]
    · cases hp
  unfold Portal.drafts
  rw [List.map_filterMap]
  refine List.Nodup.filterMap (fun i i' j hi hi' => ?_) (List.nodup_reverse.mpr List.nodup_range)
  rw [hplace hi, hplace hi']

/-- What every turn keeps, the loop keeps. -/
theorem handleDrafts_keeps {P : Portal → Prop} (rows : List (ℕ × Briefing))
    (hothers : ∀ p ∈ turnStates validators u dryRun turn rows s, P p.2 →
      P (history validators u p.2 (turn p.1).meanwhile))
    (hdiscard : ∀ p ∈ rows, p.2.isEmpty = true →
      Keeps P (discardEmptyBriefing p.1 (turn p.1).now (turn p.1).recorded))
    (count : ℕ) (hs : P s) : P (handleDrafts validators u dryRun turn rows count s).tables := by
  induction rows generalizing count s with
  | nil => exact hs
  | cons p rest ih =>
    obtain ⟨id, b⟩ := p
    have hdiscards : ∀ q ∈ rest, q.2.isEmpty = true →
        Keeps P (discardEmptyBriefing q.1 (turn q.1).now (turn q.1).recorded) :=
      fun q hq => hdiscard q (List.mem_cons_of_mem _ hq)
    unfold turnStates at hothers
    unfold handleDrafts
    by_cases hempty : b.isEmpty = true
    · rw [if_pos hempty] at hothers ⊢
      have hmeanwhile := hothers (id, s) List.mem_cons_self hs
      have hturn := hdiscard (id, b) List.mem_cons_self hempty _ hmeanwhile
      have hrest := fun q hq => hothers q (List.mem_cons_of_mem _ hq)
      dsimp only at hrest hturn hmeanwhile ⊢
      by_cases hdry : dryRun = true
      · rw [if_pos hdry] at hrest ⊢
        exact ih hrest hdiscards _ hmeanwhile
      · rw [if_neg hdry] at hrest ⊢
        cases hdiscarded : discardEmptyBriefing id (turn id).now (turn id).recorded
          (history validators u s (turn id).meanwhile) with
        | mk result t =>
          rw [hdiscarded] at hrest hturn
          cases result with
          | error e => exact hturn
          | ok emptied => exact ih hrest hdiscards _ hturn
    · rw [if_neg hempty] at hothers ⊢
      exact ih hothers hdiscards _ hs

/-- A count that is returned is that of the drafts that were read as empty, and each of them has its
line. -/
theorem handleDrafts_ok (rows : List (ℕ × Briefing)) {count n : ℕ}
    (h : (handleDrafts validators u dryRun turn rows count s).result = .ok n) :
    n = count + (rows.filter fun p => p.2.isEmpty).length ∧
    (handleDrafts validators u dryRun turn rows count s).lines =
      (rows.filter fun p => p.2.isEmpty).map fun p =>
        if dryRun then .wouldCancel p.1 p.2.clientName else .cancelled p.1 p.2.clientName := by
  induction rows generalizing count s with
  | nil => exact ⟨(Except.ok.inj h).symm, rfl⟩
  | cons p rest ih =>
    obtain ⟨id, b⟩ := p
    unfold handleDrafts at h ⊢
    by_cases hempty : b.isEmpty = true
    · rw [if_pos hempty] at h ⊢
      rw [List.filter_cons_of_pos (a := (id, b)) (p := fun p => p.2.isEmpty) hempty]
      dsimp only at h ⊢
      by_cases hdry : dryRun = true
      · rw [if_pos hdry] at h ⊢
        obtain ⟨hn, hlines⟩ := ih h
        refine ⟨by rw [hn, List.length_cons]; omega, ?_⟩
        rw [hlines, List.map_cons, if_pos hdry]
      · rw [if_neg hdry] at h ⊢
        split at h
        · cases h
        · obtain ⟨hn, hlines⟩ := ih h
          refine ⟨by rw [hn, List.length_cons]; omega, ?_⟩
          rw [List.map_cons, if_neg hdry]
          dsimp only
          rw [hlines]
    · rw [if_neg hempty] at h ⊢
      rw [List.filter_cons_of_neg (a := (id, b)) (p := fun p => p.2.isEmpty) hempty]
      exact ih h

/-- A row that was read is still there, as a draft unless one of the calls has closed it. -/
def Open (validators : Validators) (u : Unicode) (others : List (Call × Portal)) (i : ℕ)
    (s : Portal) : Prop :=
  ∃ b, s.briefings[i]? = some b ∧
    (b.status = .draft ∨ ∃ status, ClosedBy validators u others i status)

theorem Open.perform {others : List (Call × Portal)} {step : Call × Portal} (hstep : step ∈ others)
    {i : ℕ} (h : Open validators u others i step.2) :
    Open validators u others i (step.1.perform validators u step.2).2 := by
  obtain ⟨b, hb, hopen⟩ := h
  obtain ⟨b', hb'⟩ := (perform_moves validators u step.1 step.2).row_some hb
  refine ⟨b', hb', ?_⟩
  rcases perform_row step.1 hb' with hdraft | hsame | hclosed
  · exact .inl hdraft
  · obtain rfl := Option.some.inj (hb.symm.trans hsame)
    exact hopen
  · exact .inr ⟨_, step, hstep, hclosed⟩

/-- What the loop may raise: what the event of a draft raises, or its refusal after a call has closed
it. -/
def MayRaise (validators : Validators) (u : Unicode) (turn : ℕ → Turn)
    (others : List (Call × Portal)) (rows : List (ℕ × Briefing)) (e : Refusal) : Prop :=
  ∃ p ∈ rows, p.2.isEmpty = true ∧ ((turn p.1).recorded = some e ∨
    e = .validation "Somente um briefing em elaboração pode receber respostas." ∧
      ∃ status, ClosedBy validators u others p.1 status)

theorem MayRaise.cons {others : List (Call × Portal)} {rows : List (ℕ × Briefing)} {e : Refusal}
    (h : MayRaise validators u turn others rows e) (p : ℕ × Briefing) :
    MayRaise validators u turn others (p :: rows) e := by
  obtain ⟨q, hq, hraised⟩ := h
  exact ⟨q, List.mem_cons_of_mem p hq, hraised⟩

/-- The discard of one draft leaves the others open. -/
theorem Open.discard {others : List (Call × Portal)} {i id : ℕ} (hne : id ≠ i)
    (h : Open validators u others i s) (now : ℕ) (recorded : Option Refusal) :
    Open validators u others i (discardEmptyBriefing id now recorded s).2 := by
  refine discardEmptyBriefing_keeps (P := Open validators u others i) (fun _ _ h => h)
    (fun t c ht _ _ _ => ?_) now recorded s h
  obtain ⟨c', hc', hopen⟩ := ht
  exact ⟨c', (List.getElem?_set_ne hne).trans hc', hopen⟩

/-- What a discard raises is what its event raises, or the refusal of a closed briefing. -/
theorem discardEmptyBriefing_error (h : Sound s) {id : ℕ} {b : Briefing}
    (hb : s.briefings[id]? = some b) {now : ℕ} {recorded : Option Refusal} {e : Refusal}
    (he : (discardEmptyBriefing id now recorded s).1 = .error e) :
    recorded = some e ∨
      e = .validation "Somente um briefing em elaboração pode receber respostas." ∧
        b.status ≠ .draft := by
  obtain ⟨r, hr, -⟩ := h.consistent.paired id b hb
  rw [discardEmptyBriefing_eq h hb hr] at he
  split at he
  · split at he
    · cases recorded with
      | none => cases he
      | some e' => exact .inl (congrArg some (Except.error.inj he))
    · cases he
  · next hdraft => exact .inr ⟨(Except.error.inj he).symm, hdraft⟩

/-- **The loop raises only what an event raises, or the refusal of a draft that one of the calls
has closed.** -/
theorem handleDrafts_error {others : List (Call × Portal)} (rows : List (ℕ × Briefing))
    (hnodup : (rows.map Prod.fst).Nodup) (hs : Sound s)
    (hopen : ∀ p ∈ rows, Open validators u others p.1 s)
    (hothers : ∀ p ∈ turnStates validators u dryRun turn rows s,
      ∀ step ∈ met validators u p.2 (turn p.1).meanwhile, step ∈ others)
    {count : ℕ} {e : Refusal}
    (h : (handleDrafts validators u dryRun turn rows count s).result = .error e) :
    MayRaise validators u turn others rows e := by
  induction rows generalizing count s with
  | nil => cases h
  | cons p rest ih =>
    obtain ⟨id, b⟩ := p
    obtain ⟨hid, hnodup⟩ := List.nodup_cons.mp hnodup
    unfold turnStates at hothers
    unfold handleDrafts at h
    by_cases hempty : b.isEmpty = true
    · rw [if_pos hempty] at h hothers
      have hmeanwhile := hothers (id, s) List.mem_cons_self
      have hrest := fun q hq => hothers q (List.mem_cons_of_mem _ hq)
      have hs' : Sound (history validators u s (turn id).meanwhile) := hs.history _
      have hopen' : ∀ p ∈ (id, b) :: rest,
          Open validators u others p.1 (history validators u s (turn id).meanwhile) := fun p hp =>
        history_met _ (fun step hstep => Open.perform (hmeanwhile step hstep)) (hopen p hp)
      dsimp only at h hrest
      by_cases hdry : dryRun = true
      · rw [if_pos hdry] at h hrest
        exact (ih hnodup hs' (fun p hp => hopen' p (List.mem_cons_of_mem _ hp)) hrest h).cons _
      · rw [if_neg hdry] at h hrest
        cases hdiscarded : discardEmptyBriefing id (turn id).now (turn id).recorded
          (history validators u s (turn id).meanwhile) with
        | mk result t =>
          rw [hdiscarded] at h hrest
          cases result with
          | error e' =>
            obtain rfl := Except.error.inj h
            obtain ⟨c, hc, hclosed⟩ := hopen' (id, b) List.mem_cons_self
            refine ⟨(id, b), List.mem_cons_self, hempty, ?_⟩
            rcases discardEmptyBriefing_error hs' hc (congrArg Prod.fst hdiscarded) with
              hevent | ⟨he, hdraft⟩
            · exact .inl hevent
            · exact .inr ⟨he, hclosed.resolve_left hdraft⟩
          | ok emptied =>
            have hsound := hs'.discard id (turn id).now (turn id).recorded
            have hkept : ∀ p ∈ rest, Open validators u others p.1 (discardEmptyBriefing id
                (turn id).now (turn id).recorded
                (history validators u s (turn id).meanwhile)).2 := fun p hp =>
              (hopen' p (List.mem_cons_of_mem _ hp)).discard
                (fun heq => hid (List.mem_map.mpr ⟨p, hp, heq.symm⟩)) _ _
            rw [hdiscarded] at hsound hkept
            exact (ih hnodup hsound hkept hrest h).cons _
    · rw [if_neg hempty] at h hothers
      exact (ih hnodup hs (fun p hp => hopen p (List.mem_cons_of_mem _ hp)) hothers h).cons _

end Loop

section Interleavings

variable {validators : Validators} {u : Unicode} {dryRun : Bool} {turn : ℕ → Turn} {s : Portal}

theorem handle_tables : (handle validators u dryRun turn s).tables =
    (handleDrafts validators u dryRun turn s.drafts 0 s).tables := by
  unfold handle
  dsimp only
  split
  · rfl
  · rfl

theorem handle_result : (handle validators u dryRun turn s).result =
    (handleDrafts validators u dryRun turn s.drafts 0 s).result := by
  unfold handle
  dsimp only
  split
  · rfl
  · rfl

/-- A cancelled briefing was cancelled at the start, or one of the calls has cancelled it, or it
holds no answer and was read as empty. -/
def Accounted (validators : Validators) (u : Unicode) (others : List (Call × Portal)) (s : Portal)
    (s' : Portal) : Prop :=
  ∀ (i : ℕ) (b : Briefing), s'.briefings[i]? = some b → b.status = .cancelled →
    s.briefings[i]? = some b ∨ ClosedBy validators u others i .cancelled ∨
      b.isEmpty = true ∧ ∃ c, (i, c) ∈ s.drafts ∧ c.isEmpty = true

theorem Accounted.perform {others : List (Call × Portal)} {step : Call × Portal}
    (hstep : step ∈ others) (h : Accounted validators u others s step.2) :
    Accounted validators u others s (step.1.perform validators u step.2).2 := by
  intro i b hb hcancelled
  rcases perform_row step.1 hb with hdraft | hsame | hclosed
  · rw [hcancelled] at hdraft
    cases hdraft
  · exact h i b hsame hcancelled
  · exact .inr (.inl ⟨step, hstep, hcancelled ▸ hclosed⟩)

/-- The loop cancels only what it has read as empty, and only while it is empty. -/
theorem handleDrafts_accounted {others : List (Call × Portal)}
    (hothers : ∀ p ∈ turnStates validators u dryRun turn s.drafts s,
      ∀ step ∈ met validators u p.2 (turn p.1).meanwhile, step ∈ others) :
    Accounted validators u others s
      (handleDrafts validators u dryRun turn s.drafts 0 s).tables := by
  refine handleDrafts_keeps s.drafts (fun p hp ht => ?_) (fun p hp hempty => ?_) 0
    fun i b hb _ => .inl hb
  · exact history_met _ (fun step hstep => Accounted.perform (hothers p hp step hstep)) ht
  · refine discardEmptyBriefing_keeps (fun _ _ h => h) (fun t b ht hb _ _ => ?_) _ _
    intro i c hc hcancelled
    rcases Rows.set_cases hc with ⟨rfl, rfl⟩ | ⟨-, hc⟩
    · exact .inr (.inr ⟨hb, p.2, hp, hempty⟩)
    · exact ht i c hc hcancelled

theorem handleDrafts_sound (hs : Sound s) (rows : List (ℕ × Briefing)) (count : ℕ) :
    Sound (handleDrafts validators u dryRun turn rows count s).tables :=
  handleDrafts_keeps rows (fun _ _ h => h.history _) (fun _ _ _ _ h => h.discard _ _ _) count hs

/-- The loop leaves a closed briefing and its run alone, and so do the calls. -/
theorem handleDrafts_closed (hs : Sound s) {id : ℕ} {b : Briefing} {r : BriefingRun}
    (h : Closed s id b r) (rows : List (ℕ × Briefing)) (count : ℕ) :
    Closed (handleDrafts validators u dryRun turn rows count s).tables id b r := by
  have hmoves : ∀ s s', Consistent s ∧ Closed s id b r → Moves s s' →
      Consistent s' ∧ Closed s' id b r := fun _ _ h hm => ⟨h.1.step hm, h.2.step h.1 hm⟩
  refine (handleDrafts_keeps (P := fun s => Consistent s ∧ Closed s id b r) rows
    (fun p _ hs => ?_) (fun p _ _ s hs => ?_) count ⟨hs.consistent, h⟩).2
  · exact history_induction (P := fun s => Consistent s ∧ Closed s id b r) hmoves _ hs
  · exact hmoves s _ hs (discardEmptyBriefing_moves _ _ _)

theorem Sound.fresh (hasModule : Bool) (activeTemplates : List Text)
    (versions : List TemplateVersion) :
    Sound { hasModule := hasModule, activeTemplates := activeTemplates, versions := versions } :=
  ⟨Consistent.fresh _ _ _, by simp⟩

/-- **Whatever others call while the command runs**: briefings and runs stay matched, and a closed pair
is kept; a briefing it cancels was read as an empty draft and still holds no answer; its report names
the drafts it has read as empty, those that were filled meanwhile too; and it stops early only when an
event is refused or somebody has closed a draft that it had read as empty. -/
theorem cleanup_any_interleaving (validators : Validators) (u : Unicode) (hasModule : Bool)
    (activeTemplates : List Text) (versions : List TemplateVersion) (calls : List Call)
    (turn : ℕ → Turn) :
    let s := history validators u
      { hasModule := hasModule, activeTemplates := activeTemplates, versions := versions } calls
    let empty := s.drafts.filter fun p => p.2.isEmpty
    let others := metMeanwhile validators u false turn s.drafts s
    let o := handle validators u false turn s
    Sound o.tables ∧ (∀ id b r, Closed s id b r → Closed o.tables id b r) ∧
    Accounted validators u others s o.tables ∧
    (∀ n, o.result = .ok n → n = empty.length ∧
      o.lines = (empty.map fun p => .cancelled p.1 p.2.clientName) ++
        [if n = 0 then .noneFound else .cancelledTotal n]) ∧
    ∀ e, o.result = .error e → MayRaise validators u turn others s.drafts e := by
  intro s empty others o
  have hs : Sound s := (Sound.fresh hasModule activeTemplates versions).history calls
  have hothers : ∀ p ∈ turnStates validators u false turn s.drafts s,
      ∀ step ∈ met validators u p.2 (turn p.1).meanwhile, step ∈ others := fun p hp step hstep =>
    List.mem_flatMap.mpr ⟨p, hp, hstep⟩
  have htables : o.tables = _ := handle_tables
  have hresult : o.result = _ := handle_result
  refine ⟨?_, fun id b r h => ?_, ?_, fun n hn => ?_, fun e he => ?_⟩
  · rw [htables]
    exact handleDrafts_sound hs s.drafts 0
  · rw [htables]
    exact handleDrafts_closed hs h s.drafts 0
  · rw [htables]
    exact handleDrafts_accounted hothers
  · rw [hresult] at hn
    obtain ⟨hcount, hlines⟩ := handleDrafts_ok s.drafts hn
    refine ⟨by rw [hcount, Nat.zero_add], ?_⟩
    change (handle validators u false turn s).lines = _
    unfold handle
    dsimp only
    rw [hn]
    dsimp only
    rw [hlines]
    rfl
  · rw [hresult] at he
    refine handleDrafts_error s.drafts (drafts_nodup s) hs (fun p hp => ?_) hothers he
    obtain ⟨hb, hdraft⟩ := mem_drafts.mp hp
    exact ⟨p.2, hb, .inl hdraft⟩

end Interleavings

section Alone

variable {validators : Validators} {u : Unicode} {s : Portal} {now : ℕ → ℕ}

/-- The turns of a command that nobody disturbs and whose events are recorded. -/
def undisturbed (now : ℕ → ℕ) (id : ℕ) : Turn := { now := now id }

/-- What a command leaves of a briefing and its run, when it has the drafts to discard. -/
structure Swept (now : ℕ → ℕ) (rows : List (ℕ × Briefing)) (s s' : Portal) : Prop where
  cancelled : ∀ (i : ℕ) (b : Briefing) (r : BriefingRun), s.briefings[i]? = some b →
    s.runs[b.run]? = some r → (i, b) ∈ rows → b.isEmpty = true →
    s'.briefings[i]? = some b.discarded ∧ s'.runs[b.run]? = some (r.discarded (now i))
  kept : ∀ (i : ℕ) (b : Briefing) (r : BriefingRun), s.briefings[i]? = some b →
    s.runs[b.run]? = some r → ¬ ((i, b) ∈ rows ∧ b.isEmpty = true) →
    s'.briefings[i]? = some b ∧ s'.runs[b.run]? = some r
  briefings : s'.briefings.length = s.briefings.length
  runs : s'.runs.length = s.runs.length
  versions : s'.versions = s.versions

/-- A draft that holds an answer is passed over. -/
theorem Swept.skip {id : ℕ} {b : Briefing} {rows : List (ℕ × Briefing)} {s' : Portal}
    (hempty : ¬ b.isEmpty = true) (h : Swept now rows s s') : Swept now ((id, b) :: rows) s s' where
  cancelled i c q hc hq hmem hc' := by
    rcases List.mem_cons.mp hmem with heq | hmem
    · obtain ⟨-, rfl⟩ := Prod.mk.inj heq
      exact (hempty hc').elim
    · exact h.cancelled i c q hc hq hmem hc'
  kept i c q hc hq hmem := h.kept i c q hc hq fun h => hmem ⟨List.mem_cons_of_mem _ h.1, h.2⟩
  briefings := h.briefings
  runs := h.runs
  versions := h.versions

/-- An empty draft is discarded first, and the rest of the drafts after it. -/
theorem Swept.discard {id : ℕ} {b : Briefing} {r : BriefingRun} {rows : List (ℕ × Briefing)}
    {s' : Portal} (hs : Consistent s) (hb : s.briefings[id]? = some b)
    (hr : s.runs[b.run]? = some r) (hempty : b.isEmpty = true) (hid : ∀ p ∈ rows, id ≠ p.1)
    (h : Swept now rows (s.discard id b r (now id)) s') : Swept now ((id, b) :: rows) s s' := by
  -- another briefing has another run, so the discard leaves both
  have hother : ∀ {i c q}, i ≠ id → s.briefings[i]? = some c → s.runs[c.run]? = some q →
      (s.discard id b r (now id)).briefings[i]? = some c ∧
        (s.discard id b r (now id)).runs[c.run]? = some q := by
    intro i c q hi hc hq
    have hrun : b.run ≠ c.run := fun heq => hi (hs.own id i b c hb hc heq).symm
    exact ⟨(List.getElem?_set_ne (Ne.symm hi)).trans hc, (List.getElem?_set_ne hrun).trans hq⟩
  refine ⟨fun i c q hc hq hmem hc' => ?_, fun i c q hc hq hmem => ?_, ?_, ?_, h.versions⟩
  · by_cases hi : i = id
    · subst hi
      rw [hb] at hc
      obtain rfl := Option.some.inj hc
      rw [hr] at hq
      obtain rfl := Option.some.inj hq
      exact h.kept i b.discarded (r.discarded (now i)) (Rows.set_self hb) (Rows.set_self hr)
        fun hmem => hid _ hmem.1 rfl
    · obtain ⟨hct, hqt⟩ := hother hi hc hq
      have hrest : (i, c) ∈ rows := (List.mem_cons.mp hmem).resolve_left
        fun heq => hi (Prod.mk.inj heq).1
      exact h.cancelled i c q hct hqt hrest hc'
  · by_cases hi : i = id
    · subst hi
      rw [hb] at hc
      obtain rfl := Option.some.inj hc
      exact (hmem ⟨List.mem_cons_self .., hempty⟩).elim
    · obtain ⟨hct, hqt⟩ := hother hi hc hq
      exact h.kept i c q hct hqt fun h => hmem ⟨List.mem_cons_of_mem _ h.1, h.2⟩
  · rw [h.briefings, Portal.discard, List.length_set]
  · rw [h.runs, Portal.discard, List.length_set]

/-- **By itself the loop cancels the drafts it has read as empty, and counts them.** -/
theorem handleDrafts_alone (rows : List (ℕ × Briefing)) (hnodup : (rows.map Prod.fst).Nodup)
    (hs : Sound s) (hrows : ∀ p ∈ rows, s.briefings[p.1]? = some p.2 ∧ p.2.status = .draft)
    (count : ℕ) :
    Swept now rows s (handleDrafts validators u false (undisturbed now) rows count s).tables ∧
    (handleDrafts validators u false (undisturbed now) rows count s).result =
      .ok (count + (rows.filter fun p => p.2.isEmpty).length) := by
  induction rows generalizing count s with
  | nil =>
    exact ⟨⟨fun _ _ _ _ _ hmem => (List.not_mem_nil hmem).elim, fun _ _ _ hb hr _ => ⟨hb, hr⟩,
      rfl, rfl, rfl⟩, rfl⟩
  | cons p rest ih =>
    obtain ⟨id, b⟩ := p
    obtain ⟨hid, hnodup⟩ := List.nodup_cons.mp hnodup
    obtain ⟨hb, hdraft⟩ := hrows (id, b) (List.mem_cons_self ..)
    have hne : ∀ p ∈ rest, id ≠ p.1 := fun p hp heq => hid (List.mem_map.mpr ⟨p, hp, heq.symm⟩)
    unfold handleDrafts
    by_cases hempty : b.isEmpty = true
    · obtain ⟨r, hr, -⟩ := hs.consistent.paired id b hb
      have hdiscard : discardEmptyBriefing id (now id) none s =
          (.ok true, s.discard id b r (now id)) := by
        rw [discardEmptyBriefing_eq hs hb hr, if_pos hdraft, if_pos hempty]
        rfl
      have hsound : Sound (s.discard id b r (now id)) := by
        have hafter := hs.discard id (now id) none
        rwa [hdiscard] at hafter
      obtain ⟨hswept, hresult⟩ := ih hnodup hsound (fun p hp => by
        obtain ⟨hp', hdraft'⟩ := hrows p (List.mem_cons_of_mem _ hp)
        exact ⟨(List.getElem?_set_ne (hne p hp)).trans hp', hdraft'⟩) (count + 1)
      have hturn : discardEmptyBriefing id (undisturbed now id).now (undisturbed now id).recorded
          (history validators u s (undisturbed now id).meanwhile) =
            (.ok true, s.discard id b r (now id)) := hdiscard
      rw [if_pos hempty, List.filter_cons_of_pos (a := (id, b)) (p := fun p => p.2.isEmpty) hempty]
      dsimp only
      rw [if_neg Bool.false_ne_true, hturn]
      refine ⟨hswept.discard hs.consistent hb hr hempty hne, ?_⟩
      rw [hresult, List.length_cons, Nat.add_assoc, Nat.add_comm 1]
    · obtain ⟨hswept, hresult⟩ := ih hnodup hs
        (fun p hp => hrows p (List.mem_cons_of_mem _ hp)) count
      rw [if_neg hempty, List.filter_cons_of_neg (a := (id, b)) (p := fun p => p.2.isEmpty) hempty]
      exact ⟨hswept.skip hempty, hresult⟩

/-- A dry run only counts. -/
theorem handleDrafts_dryRun (rows : List (ℕ × Briefing)) (count : ℕ) :
    (handleDrafts validators u true (undisturbed now) rows count s).tables = s ∧
    (handleDrafts validators u true (undisturbed now) rows count s).result =
      .ok (count + (rows.filter fun p => p.2.isEmpty).length) := by
  induction rows generalizing count with
  | nil => exact ⟨rfl, rfl⟩
  | cons p rest ih =>
    obtain ⟨id, b⟩ := p
    unfold handleDrafts
    by_cases hempty : b.isEmpty = true
    · obtain ⟨htables, hresult⟩ := ih (count + 1)
      rw [if_pos hempty, List.filter_cons_of_pos (a := (id, b)) (p := fun p => p.2.isEmpty) hempty]
      refine ⟨htables, ?_⟩
      dsimp only
      rw [if_pos rfl]
      exact hresult.trans (by rw [List.length_cons, Nat.add_assoc, Nat.add_comm 1])
    · rw [if_neg hempty, List.filter_cons_of_neg (a := (id, b)) (p := fun p => p.2.isEmpty) hempty]
      exact ih count

/-- Without an empty draft the loop does nothing. -/
theorem handleDrafts_noneEmpty {turn : ℕ → Turn} {dryRun : Bool} (rows : List (ℕ × Briefing))
    (h : ∀ p ∈ rows, ¬ p.2.isEmpty = true) (count : ℕ) :
    handleDrafts validators u dryRun turn rows count s =
      { tables := s, lines := [], result := .ok count } := by
  induction rows with
  | nil => rfl
  | cons p rest ih =>
    obtain ⟨id, b⟩ := p
    unfold handleDrafts
    rw [if_neg (h (id, b) (List.mem_cons_self ..))]
    exact ih fun q hq => h q (List.mem_cons_of_mem _ hq)

/-- The tables that a command leaves hold no empty draft. -/
theorem Swept.noneEmpty {s' : Portal} (hs : Consistent s) (h : Swept now s.drafts s s') :
    ∀ p ∈ s'.drafts, ¬ p.2.isEmpty = true := by
  rintro ⟨i, b'⟩ hmem hempty
  obtain ⟨hb', hdraft⟩ := mem_drafts.mp hmem
  have hlt : i < s.briefings.length := h.briefings ▸ (List.getElem?_eq_some_iff.mp hb').1
  have hb : s.briefings[i]? = some s.briefings[i] := List.getElem?_eq_getElem hlt
  obtain ⟨r, hr, -⟩ := hs.paired i _ hb
  by_cases hread : (i, s.briefings[i]) ∈ s.drafts ∧ s.briefings[i].isEmpty = true
  · have hcancelled := (h.cancelled i _ r hb hr hread.1 hread.2).1
    rw [hb'] at hcancelled
    rw [Option.some.inj hcancelled] at hdraft
    cases hdraft
  · have hkept := (h.kept i _ r hb hr hread).1
    rw [hb'] at hkept
    rw [Option.some.inj hkept] at hdraft hempty
    exact hread ⟨mem_drafts.mpr ⟨hb, hdraft⟩, hempty⟩

/-- **By itself the command cancels every empty draft with its run, and writes no other row**; its
count is the one that a dry run gives, which writes nothing; a second command finds nothing to do. -/
theorem cleanup_alone (validators : Validators) (u : Unicode) (hasModule : Bool)
    (activeTemplates : List Text) (versions : List TemplateVersion) (calls : List Call)
    (now later : ℕ → ℕ) :
    let s := history validators u
      { hasModule := hasModule, activeTemplates := activeTemplates, versions := versions } calls
    let o := handle validators u false (undisturbed now) s
    let dry := handle validators u true (undisturbed now) s
    let again := handle validators u false (undisturbed later) o.tables
    Swept now s.drafts s o.tables ∧
    (dry.tables = s ∧ dry.result = o.result ∧
      o.result = .ok (s.drafts.filter fun p => p.2.isEmpty).length) ∧
    again.tables = o.tables ∧ again.lines = [.noneFound] := by
  intro s o dry again
  have hs : Sound s := (Sound.fresh hasModule activeTemplates versions).history calls
  have halone : Swept now s.drafts s
      (handleDrafts validators u false (undisturbed now) s.drafts 0 s).tables ∧ _ :=
    handleDrafts_alone s.drafts (drafts_nodup s) hs (fun p hp => mem_drafts.mp hp) 0
  have hdry : (handleDrafts validators u true (undisturbed now) s.drafts 0 s).tables = s ∧ _ :=
    handleDrafts_dryRun s.drafts 0
  have hswept : Swept now s.drafts s o.tables := by
    have htables : o.tables = _ := handle_tables
    rw [htables]
    exact halone.1
  have hresult : o.result = _ := handle_result.trans halone.2
  refine ⟨hswept, ⟨handle_tables.trans hdry.1, ?_, ?_⟩, ?_⟩
  · exact (handle_result.trans hdry.2).trans hresult.symm
  · rw [hresult, Nat.zero_add]
  · have hnone : handleDrafts validators u false (undisturbed later) o.tables.drafts 0 o.tables = _ :=
      handleDrafts_noneEmpty o.tables.drafts (hswept.noneEmpty hs.consistent) 0
    refine ⟨handle_tables.trans (by rw [hnone]), ?_⟩
    change (handle validators u false (undisturbed later) o.tables).lines = _
    unfold handle
    rw [hnone]
    rfl

end Alone

end SheepContabil.SC06
