import SheepContabil.Proof.Sc05Attempts

/-!
# The ledger of an operation

`AttemptLedger` pairs the attempts of each step with the calls made for them, and says what is
known of the attempt that is still open. One lemma for each thing that happens to it: an
attempt starts, its call is made, its artifact is recorded, and open attempts are finished.
-/

namespace SheepContabil

variable {W : Type} {o : OperationId} {x : Option OpenAttempt} {a : OpenAttempt}
  {rows : SC05Portal → List AttemptRow} {stored : List StoredScreenshot} {s s' : SC05State W}

/-- What the last row of a step shows of the open attempt. -/
structure OpenAttempt.Shown (op : SC05Operation) (a : OpenAttempt) (r : AttemptRow) : Prop where
  sequence : r.attempt.sequence = a.sequence
  operation : r.attempt.operation = a.operation
  uncalled : a.called = false → r.call = none
  evidence : ∀ e, a.evidence = some e → r.call = some ⟨a.operation, .returned e⟩
  artifacts : op.artifactsOf a.portal a.sequence =
    a.artifact.toList.map fun st => ⟨a.portal, a.sequence, st⟩
  live : op.run.status = .running → r.attempt.status = .running

/-- **The attempts of operation `o` with their calls**, when `x` is the open one. -/
structure AttemptLedger (o : OperationId) (x : Option OpenAttempt)
    (rows : SC05Portal → List AttemptRow) (stored : List StoredScreenshot) (s : SC05State W) :
    Prop where
  attempts : ∀ p, (s.operations o).attempts p = (rows p).map AttemptRow.attempt
  calls : ∀ p, portalCalls (s.traces o) p = (rows p).filterMap AttemptRow.call
  numbered : ∀ p, (rows p).map (fun r => r.attempt.sequence) = List.range' 1 (rows p).length
  documented : ∀ p, ∀ r ∈ rows p, Documented o (s.operations o) p r
  artifacts : ∀ y ∈ (s.operations o).artifacts,
    y.stored ∈ stored ∧ ∃ r ∈ rows y.portal, r.attempt.sequence = y.sequence
  running : ∀ p, ∀ r ∈ rows p, r.attempt.status = .running →
    (s.operations o).run.status = .running ∧
      ∃ a, x = some a ∧ a.portal = p ∧ r.attempt.sequence = a.sequence
  opened : ∀ a, x = some a → (∀ st, a.stored = some st → st ∈ stored) ∧
    ∃ front r, rows a.portal = front ++ [r] ∧ a.Shown (s.operations o) r

theorem artifactsOf_congr {op op' : SC05Operation} (h : op'.artifacts = op.artifacts)
    (p : SC05Portal) (n : ℕ) : op'.artifactsOf p n = op.artifactsOf p n := by
  unfold SC05Operation.artifactsOf
  rw [h]

theorem Documented.congr {op op' : SC05Operation} {p : SC05Portal} {r : AttemptRow}
    (h : Documented o op p r)
    (ha : op'.artifactsOf p r.attempt.sequence = op.artifactsOf p r.attempt.sequence) :
    Documented o op' p r where
  operation := h.operation
  succeeded := by rw [ha]; exact h.succeeded
  atMostOne := by rw [ha]; exact h.atMostOne

theorem OpenAttempt.Shown.congr {op op' : SC05Operation} {r : AttemptRow} (h : a.Shown op r)
    (ha : op'.artifactsOf a.portal a.sequence = op.artifactsOf a.portal a.sequence)
    (hrun : op'.run.status = .running → op.run.status = .running) : a.Shown op' r where
  sequence := h.sequence
  operation := h.operation
  uncalled := h.uncalled
  evidence := h.evidence
  artifacts := ha.trans h.artifacts
  live hr := h.live (hrun hr)

namespace AttemptLedger

/-- The sequence of an attempt identifies its row. -/
theorem eq_of_sequence (h : AttemptLedger o x rows stored s) {p : SC05Portal} {r r' : AttemptRow}
    (hr : r ∈ rows p) (hr' : r' ∈ rows p) (heq : r.attempt.sequence = r'.attempt.sequence) :
    r = r' := by
  have hnodup : ((rows p).map fun r => r.attempt.sequence).Nodup := by
    rw [h.numbered p]
    exact List.nodup_range' 
  exact List.inj_on_of_nodup_map hnodup hr hr' heq

/-- A sequence that is not used yet. -/
theorem sequence_le (h : AttemptLedger o x rows stored s) {p : SC05Portal} {r : AttemptRow}
    (hr : r ∈ rows p) : r.attempt.sequence ≤ (rows p).length := by
  have hmem : r.attempt.sequence ∈ (rows p).map fun r => r.attempt.sequence :=
    List.mem_map_of_mem hr
  rw [h.numbered p, List.mem_range'_1] at hmem
  omega

theorem noneOpen_iff (h : AttemptLedger o x rows stored s) :
    (s.operations o).NoneOpen ↔ ∀ p, ∀ r ∈ rows p, r.attempt.status ≠ .running := by
  unfold SC05Operation.NoneOpen
  constructor
  · intro hnone p r hr
    refine hnone p r.attempt ?_
    rw [h.attempts p]
    exact List.mem_map_of_mem hr
  · intro hrows p a ha
    rw [h.attempts p] at ha
    obtain ⟨r, hr, rfl⟩ := List.mem_map.1 ha
    exact hrows p r hr

/-- Nothing is open when the run is not running, or when the worker has nothing open. -/
theorem noneOpen (h : AttemptLedger o x rows stored s)
    (hx : x = none ∨ (s.operations o).run.status ≠ .running) : (s.operations o).NoneOpen := by
  refine h.noneOpen_iff.2 fun p r hr hrunning => ?_
  obtain ⟨hrun, a, ha, -⟩ := h.running p r hr hrunning
  rcases hx with rfl | hx
  · cases ha
  · exact hx hrun

/-- What is not open any more is forgotten. -/
theorem release (h : AttemptLedger o x rows stored s) (hnone : (s.operations o).NoneOpen) :
    AttemptLedger o none rows stored s :=
  { h with
    running := fun p r hr hrunning => absurd hrunning (h.noneOpen_iff.1 hnone p r hr)
    opened := fun b hb => by cases hb }

/-- The ledger of an operation whose attempts, artifacts and calls stay. -/
theorem congr (h : AttemptLedger o x rows stored s)
    (hattempts : (s'.operations o).attempts = (s.operations o).attempts)
    (hartifacts : (s'.operations o).artifacts = (s.operations o).artifacts)
    (hcalls : ∀ p, portalCalls (s'.traces o) p = portalCalls (s.traces o) p)
    (hlive : x ≠ none → (s'.operations o).run.status = .running →
      (s.operations o).run.status = .running)
    (hkeep : (s.operations o).run.status = .running →
      (s'.operations o).run.status = .running ∨ (s.operations o).NoneOpen) :
    AttemptLedger o x rows stored s' where
  attempts p := by rw [hattempts]; exact h.attempts p
  calls p := by rw [hcalls]; exact h.calls p
  numbered := h.numbered
  documented p r hr := (h.documented p r hr).congr (artifactsOf_congr hartifacts _ _)
  artifacts := by rw [hartifacts]; exact h.artifacts
  running p r hr hrunning := by
    obtain ⟨hrun, ha⟩ := h.running p r hr hrunning
    rcases hkeep hrun with hrun' | hnone
    · exact ⟨hrun', ha⟩
    · exact absurd hrunning (h.noneOpen_iff.1 hnone p r hr)
  opened a ha := by
    obtain ⟨hst, front, r, hrows, hshown⟩ := h.opened a ha
    refine ⟨hst, front, r, hrows, hshown.congr (artifactsOf_congr hartifacts _ _) (hlive ?_)⟩
    rw [ha]
    simp

theorem mono (h : AttemptLedger o x rows stored s) (more : List StoredScreenshot) :
    AttemptLedger o x rows (stored ++ more) s :=
  { h with
    artifacts := fun y hy => ⟨List.mem_append_left _ (h.artifacts y hy).1, (h.artifacts y hy).2⟩
    opened := fun a ha => ⟨fun st hst => List.mem_append_left _ ((h.opened a ha).1 st hst),
      (h.opened a ha).2⟩ }

/-- No artifact has a sequence that no attempt has. -/
theorem artifactsOf_fresh (h : AttemptLedger o x rows stored s) {p : SC05Portal} {n : ℕ}
    (hn : (rows p).length < n) : (s.operations o).artifactsOf p n = [] := by
  refine List.filter_eq_nil_iff.2 fun y hy => ?_
  obtain ⟨-, r, hr, hseq⟩ := h.artifacts y hy
  simp only [Bool.and_eq_true, beq_iff_eq, not_and]
  rintro rfl rfl
  have := h.sequence_le hr
  omega

/-- **An attempt starts.** -/
theorem start (h : AttemptLedger o none rows stored s)
    (hrun : (s.operations o).run.status = .running)
    (p : SC05Portal) {b : SC05StepAttempt} (hb : b.sequence = (rows p).length + 1)
    (hstatus : b.status = .running)
    (hop : s'.operations o =
      (s.operations o).setAttempts p ((s.operations o).attempts p ++ [b]))
    (htrace : s'.traces o = s.traces o) :
    AttemptLedger o (some { portal := p, sequence := b.sequence, operation := b.operation })
      (Function.update rows p (rows p ++ [⟨b, none⟩])) stored s' := by
  have hartifacts : (s'.operations o).artifacts = (s.operations o).artifacts := by rw [hop]; rfl
  have hstatus' : (s'.operations o).run.status = .running := by rw [hop]; exact hrun
  have hnone := h.noneOpen_iff.1 (h.noneOpen (.inl rfl))
  -- an artifact of the new sequence would belong to a row that is not there
  have hfresh : (s.operations o).artifactsOf p b.sequence = [] :=
    h.artifactsOf_fresh (by rw [hb]; exact Nat.lt_succ_self _)
  have hrow : ∀ {q : SC05Portal} {r : AttemptRow},
      r ∈ Function.update rows p (rows p ++ [⟨b, none⟩]) q →
      r ∈ rows q ∨ (q = p ∧ r = ⟨b, none⟩) := by
    intro q r hr
    by_cases hq : q = p
    · subst hq
      rw [Function.update_self, List.mem_append, List.mem_singleton] at hr
      exact hr.imp_right fun hr => ⟨rfl, hr⟩
    · rw [Function.update_of_ne hq] at hr
      exact .inl hr
  refine ⟨fun q => ?_, fun q => ?_, fun q => ?_, fun q r hr => ?_, fun y hy => ?_,
    fun q r hr hrunning => ?_, ?_⟩
  · rw [hop]
    by_cases hq : q = p
    · subst hq
      simp [SC05Operation.setAttempts, h.attempts q]
    · simp [SC05Operation.setAttempts, hq, h.attempts q]
  · rw [htrace, h.calls q]
    by_cases hq : q = p
    · subst hq
      simp
    · simp [hq]
  · by_cases hq : q = p
    · subst hq
      simp [h.numbered q, hb, List.range'_1_concat, Nat.add_comm]
    · simp [hq, h.numbered q]
  · rcases hrow hr with hr | ⟨rfl, rfl⟩
    · exact (h.documented q r hr).congr (artifactsOf_congr hartifacts _ _)
    · refine ⟨fun c hc => (by cases hc), fun hs => ?_, ?_⟩
      · rw [hstatus] at hs
        cases hs
      · rw [artifactsOf_congr hartifacts, hfresh]
        exact Nat.zero_le _
  · rw [hartifacts] at hy
    obtain ⟨hst, r, hr, hseq⟩ := h.artifacts y hy
    refine ⟨hst, r, ?_, hseq⟩
    by_cases hq : y.portal = p
    · rw [hq, Function.update_self, ← hq]
      exact List.mem_append_left _ hr
    · rw [Function.update_of_ne hq]
      exact hr
  · rcases hrow hr with hr | ⟨rfl, rfl⟩
    · exact absurd hrunning (hnone q r hr)
    · exact ⟨hstatus', _, rfl, rfl, rfl⟩
  · rintro _ ⟨⟩
    refine ⟨fun st hst => (by cases hst), rows p, ⟨b, none⟩, by simp, rfl, rfl, fun _ => rfl,
      fun e he => (by cases he), ?_, fun _ => hstatus⟩
    rw [artifactsOf_congr hartifacts, hfresh]
    rfl

/-- **The call of the open attempt is made.** -/
theorem call (h : AttemptLedger o (some a) rows stored s) (hcalled : a.called = false)
    {c : PortalCall}
    (hc : c.operation = a.operation) (hop : s'.operations o = s.operations o)
    (hcalls : ∀ p, portalCalls (s'.traces o) p =
      if p = a.portal then portalCalls (s.traces o) p ++ [c] else portalCalls (s.traces o) p)
    {evidence : Option PortalEvidence}
    (hev : ∀ e, evidence = some e → c.outcome = .returned e) :
    ∃ rows', AttemptLedger o (some { a with called := true, evidence := evidence }) rows' stored
      s' := by
  obtain ⟨hst, front, r, hrows, hshown⟩ := h.opened a rfl
  have hr : r ∈ rows a.portal := by simp [hrows]
  have hnocall : r.call = none := hshown.uncalled hcalled
  -- only the last row of the step changes
  have hmem : ∀ {q : SC05Portal} {r' : AttemptRow},
      r' ∈ Function.update rows a.portal (front ++ [{ r with call := some c }]) q →
      r' ∈ rows q ∨ (q = a.portal ∧ r' = { r with call := some c }) := by
    intro q r' hr'
    by_cases hq : q = a.portal
    · subst hq
      rw [Function.update_self, List.mem_append, List.mem_singleton] at hr'
      refine hr'.imp (fun hr' => ?_) fun hr' => ⟨rfl, hr'⟩
      rw [hrows]
      exact List.mem_append_left _ hr'
    · rw [Function.update_of_ne hq] at hr'
      exact .inl hr'
  refine ⟨Function.update rows a.portal (front ++ [{ r with call := some c }]), fun q => ?_,
    fun q => ?_, fun q => ?_, fun q r' hr' => ?_, fun y hy => ?_, fun q r' hr' hrunning => ?_, ?_⟩
  · rw [hop, h.attempts q]
    by_cases hq : q = a.portal
    · subst hq
      simp [hrows]
    · simp [hq]
  · rw [hcalls, h.calls q]
    by_cases hq : q = a.portal
    · subst hq
      simp [hrows, hnocall]
    · simp [hq]
  · by_cases hq : q = a.portal
    · subst hq
      have hnumbered := h.numbered a.portal
      rw [hrows] at hnumbered
      simpa using hnumbered
    · simp [hq, h.numbered q]
  · rw [hop]
    rcases hmem hr' with hr' | ⟨rfl, rfl⟩
    · exact h.documented q r' hr'
    · have hdoc := h.documented _ r hr
      refine ⟨?_, fun hs => ?_, hdoc.atMostOne⟩
      · rintro _ ⟨⟩
        exact hc.trans hshown.operation.symm
      · obtain ⟨e, position, hcall, -⟩ := hdoc.succeeded hs
        rw [hnocall] at hcall
        cases hcall
  · rw [hop] at hy
    obtain ⟨hst, r', hr', hseq⟩ := h.artifacts y hy
    by_cases hq : y.portal = a.portal
    · rw [hq, hrows, List.mem_append, List.mem_singleton] at hr'
      rcases hr' with hr' | rfl
      · exact ⟨hst, r', by rw [hq]; simp [hr'], hseq⟩
      · exact ⟨hst, { r' with call := some c }, by rw [hq]; simp, hseq⟩
    · exact ⟨hst, r', by rw [Function.update_of_ne hq]; exact hr', hseq⟩
  · rw [hop]
    rcases hmem hr' with hr' | ⟨rfl, rfl⟩
    · obtain ⟨hrun, b, ⟨⟩, hq, hseq⟩ := h.running q r' hr' hrunning
      exact ⟨hrun, _, rfl, hq, hseq⟩
    · obtain ⟨hrun, b, ⟨⟩, hq, hseq⟩ := h.running _ r hr hrunning
      exact ⟨hrun, _, rfl, hq, hseq⟩
  · rintro _ ⟨⟩
    refine ⟨hst, front, { r with call := some c }, by simp, hshown.sequence, hshown.operation,
      fun h => (by cases h), fun e he => ?_, ?_, ?_⟩
    · rw [← hc, ← hev e he]
    · rw [hop]; exact hshown.artifacts
    · rw [hop]; exact hshown.live

/-- **The artifact of the open attempt is recorded.** -/
theorem record (h : AttemptLedger o (some a) rows stored s) (hnone : a.artifact = none)
    {st : StoredScreenshot} (hstored : a.stored = some st)
    (hop : s'.operations o = { s.operations o with
      artifacts := (s.operations o).artifacts ++ [⟨a.portal, a.sequence, st⟩] })
    (htrace : s'.traces o = s.traces o) :
    AttemptLedger o (some { a with artifact := some st }) rows stored s' := by
  obtain ⟨hst, front, r, hrows, hshown⟩ := h.opened a rfl
  have hr : r ∈ rows a.portal := by simp [hrows]
  -- the open attempt has no artifact yet, so this one is its only artifact
  have hbefore : (s.operations o).artifactsOf a.portal a.sequence = [] := by
    rw [hshown.artifacts, hnone]
    rfl
  have hown : (s'.operations o).artifactsOf a.portal a.sequence = [⟨a.portal, a.sequence, st⟩] := by
    have hcons : (s'.operations o).artifactsOf a.portal a.sequence =
        (s.operations o).artifactsOf a.portal a.sequence ++ [⟨a.portal, a.sequence, st⟩] := by
      rw [hop]
      simp [SC05Operation.artifactsOf]
    rw [hcons, hbefore]
    rfl
  have hother : ∀ p n, ¬ (a.portal = p ∧ a.sequence = n) →
      (s'.operations o).artifactsOf p n = (s.operations o).artifactsOf p n := by
    intro p n hne
    rw [hop]
    simp [SC05Operation.artifactsOf, List.filter_append, hne]
  refine ⟨fun q => by rw [hop]; exact h.attempts q, fun q => by rw [htrace]; exact h.calls q,
    h.numbered, fun q r' hr' => ?_, fun y hy => ?_, fun q r' hr' hrunning => ?_, ?_⟩
  · have hdoc := h.documented q r' hr'
    by_cases hq : a.portal = q ∧ a.sequence = r'.attempt.sequence
    · obtain ⟨rfl, hseq⟩ := hq
      refine ⟨hdoc.operation, fun hs => ?_, ?_⟩
      · obtain ⟨e, position, -, hart⟩ := hdoc.succeeded hs
        rw [← hseq, hbefore] at hart
        cases hart
      · rw [← hseq, hown]
        exact le_refl _
    · exact hdoc.congr (hother _ _ hq)
  · rw [hop] at hy
    rcases List.mem_append.1 hy with hy | hy
    · exact h.artifacts y hy
    · obtain rfl := List.mem_singleton.1 hy
      exact ⟨hst st hstored, r, hr, hshown.sequence⟩
  · obtain ⟨hrun, b, ⟨⟩, hq, hseq⟩ := h.running q r' hr' hrunning
    exact ⟨by rw [hop]; exact hrun, _, rfl, hq, hseq⟩
  · rintro _ ⟨⟩
    refine ⟨hst, front, r, hrows, hshown.sequence, hshown.operation, hshown.uncalled,
      hshown.evidence, hown, ?_⟩
    rw [hop]
    exact hshown.live

/-- **Open attempts are finished**, by the worker or by a quarantine. -/
theorem finish (h : AttemptLedger o x rows stored s) {x' : Option OpenAttempt}
    {f : SC05Portal → SC05StepAttempt → SC05StepAttempt}
    (hattempts : ∀ p, (s'.operations o).attempts p = ((s.operations o).attempts p).map (f p))
    (hartifacts : (s'.operations o).artifacts = (s.operations o).artifacts)
    (htrace : s'.traces o = s.traces o)
    (hsequence : ∀ p b, (f p b).sequence = b.sequence)
    (hoperation : ∀ p b, (f p b).operation = b.operation)
    (hf : ∀ p, ∀ r ∈ rows p, (r.attempt.status ≠ .running ∧ f p r.attempt = r.attempt) ∨
      (f p r.attempt).status = .failed ∨ ∃ evidence position,
        r.call = some ⟨r.attempt.operation, .returned evidence⟩ ∧
          (s.operations o).artifactsOf p r.attempt.sequence = [⟨p, r.attempt.sequence,
            ⟨⟨o, position, p, r.attempt.sequence, r.attempt.operation, false⟩,
              evidence.screenshot⟩⟩] ∧ (f p r.attempt).status = .succeeded)
    (hx : x' = none ∨ (x' = x ∧ (s'.operations o).run.status ≠ .running)) :
    AttemptLedger o x' (fun p => (rows p).map fun r => { r with attempt := f p r.attempt }) stored
      s' := by
  -- nothing is left running, so the open attempt need not be remembered as running
  have hclosed : ∀ p, ∀ r ∈ rows p, (f p r.attempt).status ≠ .running := by
    intro p r hr
    rcases hf p r hr with ⟨hne, heq⟩ | hfailed | ⟨-, -, -, -, hsucceeded⟩
    · rw [heq]; exact hne
    · rw [hfailed]; decide
    · rw [hsucceeded]; decide
  refine ⟨fun p => ?_, fun p => ?_, fun p => ?_, fun p r' hr' => ?_, fun y hy => ?_,
    fun p r' hr' hrunning => ?_, fun a ha => ?_⟩
  · rw [hattempts, h.attempts p, List.map_map, List.map_map]
    rfl
  · rw [htrace, h.calls p, List.filterMap_map]
    rfl
  · rw [List.map_map, List.length_map, ← h.numbered p]
    exact List.map_congr_left fun r _ => hsequence p r.attempt
  · obtain ⟨r, hr, rfl⟩ := List.mem_map.1 hr'
    have hdoc := h.documented p r hr
    have hart := artifactsOf_congr hartifacts p r.attempt.sequence
    refine ⟨fun c hc => (hdoc.operation c hc).trans (hoperation p _).symm, fun hs => ?_, ?_⟩
    · rw [hsequence, hoperation, hart]
      rcases hf p r hr with ⟨-, heq⟩ | hfailed | ⟨e, position, hcall, hown, -⟩
      · rw [heq] at hs
        exact hdoc.succeeded hs
      · rw [hfailed] at hs
        cases hs
      · exact ⟨e, position, hcall, hown⟩
    · rw [hsequence, hart]
      exact hdoc.atMostOne
  · rw [hartifacts] at hy
    obtain ⟨hst, r, hr, hseq⟩ := h.artifacts y hy
    exact ⟨hst, _, List.mem_map_of_mem hr, (hsequence _ _).trans hseq⟩
  · obtain ⟨r, hr, rfl⟩ := List.mem_map.1 hr'
    exact absurd hrunning (hclosed p r hr)
  · rcases hx with rfl | ⟨rfl, hrun⟩
    · cases ha
    · obtain ⟨hst, front, r, hrows, hshown⟩ := h.opened a ha
      refine ⟨hst, front.map fun r => { r with attempt := f a.portal r.attempt },
        { r with attempt := f a.portal r.attempt }, by simp [hrows],
        (hsequence _ _).trans hshown.sequence, (hoperation _ _).trans hshown.operation,
        hshown.uncalled, hshown.evidence, ?_, fun hr => absurd hr hrun⟩
      rw [artifactsOf_congr hartifacts]
      exact hshown.artifacts

/-- **What the ledger says of the evidence.** -/
theorem evidence (h : AttemptLedger o x rows stored s) : EvidenceKept o stored s where
  numbered p := by
    rw [h.attempts p, List.map_map, List.length_map]
    exact h.numbered p
  called p := ⟨rows p, (h.attempts p).symm, (h.calls p).symm, h.documented p⟩
  stored y hy := (h.artifacts y hy).1
  alone p q b c hb hc hrb hrc := by
    rw [h.attempts] at hb hc
    obtain ⟨r, hr, rfl⟩ := List.mem_map.1 hb
    obtain ⟨r', hr', rfl⟩ := List.mem_map.1 hc
    obtain ⟨-, a, rfl, rfl, hseq⟩ := h.running p r hr hrb
    obtain ⟨-, a', ⟨⟩, rfl, hseq'⟩ := h.running q r' hr' hrc
    exact ⟨rfl, by rw [h.eq_of_sequence hr hr' (hseq.trans hseq'.symm)]⟩
  closed hstatus := by
    refine h.noneOpen (.inr ?_)
    change (s.operations o).run.status = _ ∨ (s.operations o).run.status = _ ∨
      (s.operations o).run.status = _ at hstatus
    rcases hstatus with hs | hs | hs <;> rw [hs] <;> decide

end AttemptLedger

end SheepContabil
