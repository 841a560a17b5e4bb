import SheepContabil.Py.Rows
import SheepContabil.Spec.Sc04Intake

/-!
# What the calls of `ingest_document` leave

* `IntakeTables.Grows`: rows are only added.
* `IntakeKept`: every document was taken in, or the call that has created it is about to
  create its intake.
* `run_allOrNothing`: the property, in every history in which no call loses the document
  it has created; `lost_document`: two histories in which one does.
-/

namespace SheepContabil

/-- Rows are only added. -/
structure IntakeTables.Grows (s t : IntakeTables) : Prop where
  documents : s.documents.length ≤ t.documents.length
  intakes : ∀ (k : IntakeId) (intake : DocumentIntake), s.intakes[k]? = some intake →
    t.intakes[k]? = some intake
  items : ∀ item ∈ s.items, item ∈ t.items

/-- The rows that a call goes on with exist. -/
def IngestPhase.Known (s : IntakeTables) : IngestPhase → Prop
  | updatePages d | createIntake d _ => d < s.documents.length
  | adopt k => k < s.intakes.length
  | _ => True

/-- **What holds of the tables and the calls**; of every document only while nothing is lost. -/
structure IntakeKept (lossless : Prop) (s : IntakeState) : Prop where
  accounted : lossless → ∀ d < s.tables.documents.length, s.TakenIn d ∨
    ∃ (i : ℕ) (c : CheckedCall),
      s.processes[i]? = some (IngestProcess.running c (.createIntake d false))
  intakes : ∀ intake ∈ s.tables.intakes, intake.document < s.tables.documents.length
  items : ∀ item ∈ s.tables.items, item.intake < s.tables.intakes.length
  known : ∀ (i : ℕ) (c : CheckedCall) (phase : IngestPhase),
    s.processes[i]? = some (.running c phase) → phase.Known s.tables

section Tables

variable {s t : IntakeTables}

theorem IntakeTables.Grows.refl : s.Grows s := ⟨le_rfl, fun _ _ h => h, fun _ h => h⟩

theorem IntakeTables.Grows.takenIn (h : s.Grows t) {ps qs : List IngestProcess} {d : DocumentId}
    (hd : IntakeState.TakenIn ⟨s, ps⟩ d) : IntakeState.TakenIn ⟨t, qs⟩ d := by
  obtain ⟨item, hitem, hnew, intake, hintake, hdoc⟩ := hd
  exact ⟨item, h.items item hitem, hnew, intake, h.intakes _ _ hintake, hdoc⟩

theorem IntakeTables.Grows.intakeCount (h : s.Grows t) : s.intakes.length ≤ t.intakes.length := by
  by_contra hlt
  have hlast : t.intakes.length < s.intakes.length := by omega
  have hsome := h.intakes _ _ (List.getElem?_eq_getElem hlast)
  rw [List.getElem?_eq_none le_rfl] at hsome
  cases hsome

theorem IngestPhase.Known.grows {phase : IngestPhase} (hk : phase.Known s) (h : s.Grows t) :
    phase.Known t := by
  have hintakes := h.intakeCount
  have hdocuments := h.documents
  cases phase with
  | updatePages d | createIntake d dup => exact Nat.lt_of_lt_of_le hk hdocuments
  | adopt k => exact Nat.lt_of_lt_of_le hk hintakes
  | _ => trivial

theorem IntakeTables.intakeFor_lt {source : DocumentSource} {reference : String} {k : IntakeId}
    (h : s.intakeFor source reference = some k) : k < s.intakes.length :=
  (List.findIdx?_eq_some_iff_findIdx_eq.1 h).1

theorem IntakeTables.documentFor_lt {sha256 : String} {d : DocumentId}
    (h : s.documentFor sha256 = some d) : d < s.documents.length :=
  (List.findIdx?_eq_some_iff_findIdx_eq.1 h).1

end Tables

/-- A call is running, or no step of it does anything. -/
theorem IntakeState.running_or_idle (s : IntakeState) (i : ℕ) :
    (∃ c phase, s.processes[i]? = some (.running c phase)) ∨
      ∀ x, x = .advance i ∨ x = .interrupt i → s.step x = s ∧ s.loses x = false := by
  cases hi : s.processes[i]? with
  | none =>
    refine .inr ?_
    rintro x (rfl | rfl) <;> simp only [IntakeState.step, IntakeState.loses, hi, and_self]
  | some p =>
    cases p with
    | running c phase => exact .inl ⟨c, phase, rfl⟩
    | ended result =>
      refine .inr ?_
      rintro x (rfl | rfl) <;> simp only [IntakeState.step, IntakeState.loses, hi, and_self]

namespace IntakeKept

variable {lossless : Prop} {s : IntakeState} {i : ℕ} {c : CheckedCall} {phase : IngestPhase}

/-- Call `i` goes on to `p`, over the tables `t`. -/
theorem replace (h : IntakeKept lossless s) (hi : s.processes[i]? = some (.running c phase))
    {t : IntakeTables} {p : IngestProcess} (hgrows : s.tables.Grows t)
    (hcreated : ∀ d < t.documents.length, d < s.tables.documents.length ∨
      p = .running c (.createIntake d false))
    (hcreator : lossless → ∀ d, phase = .createIntake d false → IntakeState.TakenIn ⟨t, []⟩ d)
    (hintakes : ∀ intake ∈ t.intakes, intake.document < t.documents.length)
    (hitems : ∀ item ∈ t.items, item.intake < t.intakes.length)
    (hknown : ∀ c' phase', p = .running c' phase' → phase'.Known t) :
    IntakeKept lossless ⟨t, s.processes.set i p⟩ := by
  refine ⟨fun hlossless d hd => ?_, hintakes, hitems, fun j c' phase' hj => ?_⟩
  · rcases hcreated d hd with hold | hnew
    · rcases h.accounted hlossless d hold with htaken | ⟨j, c', hj⟩
      · exact .inl (hgrows.takenIn htaken)
      · by_cases hij : j = i
        · -- the creator itself has gone on
          subst hij
          rw [hi] at hj
          cases hj
          exact .inl (hcreator hlossless d rfl)
        · exact .inr ⟨j, c', by rw [List.getElem?_set_ne (Ne.symm hij)]; exact hj⟩
    · exact .inr ⟨i, c, by rw [hnew]; exact Rows.set_self hi⟩
  · rcases Rows.set_cases hj with ⟨-, hp⟩ | ⟨-, hj⟩
    · exact hknown c' phase' hp.symm
    · exact (h.known j c' phase' hj).grows hgrows

/-- Call `i` goes on without a write. -/
theorem goOn (h : IntakeKept lossless s) (hi : s.processes[i]? = some (.running c phase))
    {p : IngestProcess} (hphase : lossless → ∀ d, phase ≠ .createIntake d false)
    (hknown : ∀ c' phase', p = .running c' phase' → phase'.Known s.tables) :
    IntakeKept lossless ⟨s.tables, s.processes.set i p⟩ :=
  h.replace hi .refl (fun _ hd => .inl hd) (fun hl d hd => absurd hd (hphase hl d)) h.intakes
    h.items hknown

theorem known_running {t : IntakeTables} {next : IngestPhase} (h : next.Known t) :
    ∀ c' phase', IngestProcess.running c next = .running c' phase' → phase'.Known t := by
  rintro _ _ ⟨⟩
  exact h

theorem known_over {t : IntakeTables} {r : Except IngestError IngestionResult} :
    ∀ c' phase', IngestProcess.ended r = .running c' phase' → phase'.Known t := by
  rintro _ _ ⟨⟩

theorem known_adoptOrRefuse {t : IntakeTables} {k : IntakeId} (hk : k < t.intakes.length) :
    ∀ c' phase', c.adoptOrRefuse t k = .running c' phase' → phase'.Known t := by
  unfold CheckedCall.adoptOrRefuse
  split
  · exact known_running hk
  · exact known_over

/-- The transaction of the intake of a document. -/
theorem createIntake (h : IntakeKept lossless s) {d : DocumentId} {isDuplicate : Bool}
    (hi : s.processes[i]? = some (.running c (.createIntake d isDuplicate)))
    (r : Except IngestError IngestionResult) :
    IntakeKept lossless
      ⟨{ s.tables with
          intakes := s.tables.intakes ++ [c.newIntake d isDuplicate]
          items := s.tables.items ++
            [⟨c.run, s.tables.intakes.length, CheckedCall.outcome isDuplicate⟩] },
        s.processes.set i (.ended r)⟩ := by
  have hlast : (s.tables.intakes ++ [c.newIntake d isDuplicate])[s.tables.intakes.length]? =
      some (c.newIntake d isDuplicate) := by simp
  refine h.replace hi ⟨le_rfl, fun k intake hk => ?_, fun item hitem => ?_⟩
    (fun _ hd => .inl hd) (fun _ d' hd' => ?_) (fun intake hintake => ?_) (fun item hitem => ?_)
    known_over
  · exact Rows.append_some hk
  · exact List.mem_append_left _ hitem
  · cases hd'
    exact ⟨_, List.mem_append_right _ (List.mem_singleton.2 rfl), rfl, _, hlast, rfl⟩
  · rcases List.mem_append.1 hintake with hold | hnew
    · exact h.intakes intake hold
    · rw [List.mem_singleton.1 hnew]
      exact h.known i c _ hi
  · show item.intake < (s.tables.intakes ++ [c.newIntake d isDuplicate]).length
    rw [List.length_append, List.length_singleton]
    rcases List.mem_append.1 hitem with hold | hnew
    · exact Nat.lt_succ_of_lt (h.items item hold)
    · rw [List.mem_singleton.1 hnew]
      exact Nat.lt_succ_self _

/-- **A step of a call that loses no document.** -/
theorem advance (h : IntakeKept lossless s) (hi : s.processes[i]? = some (.running c phase))
    (hloses : lossless → s.loses (.advance i) = false) :
    IntakeKept lossless (s.step (.advance i)) := by
  have hstep : s.step (.advance i) =
      ⟨(c.advance s.tables phase).1, s.processes.set i (c.advance s.tables phase).2⟩ := by
    simp only [IntakeState.step, hi]
  rw [hstep]
  cases phase with
  | findIntake =>
    dsimp only [CheckedCall.advance]
    split
    · next k hk => exact h.goOn hi (by simp) (known_adoptOrRefuse (IntakeTables.intakeFor_lt hk))
    · exact h.goOn hi (by simp) (known_running trivial)
  | findDocument =>
    dsimp only [CheckedCall.advance]
    split
    · exact h.goOn hi (by simp) (known_running trivial)
    · next d hd =>
      have hlt := IntakeTables.documentFor_lt hd
      split
      · exact h.goOn hi (by simp) (known_running hlt)
      · exact h.goOn hi (by simp) (known_running hlt)
  | put =>
    have hgrows : s.tables.Grows { s.tables with
        objects := s.tables.objects ++ [(c.newDocument.storageKey, c.validated.content)] } :=
      ⟨le_rfl, fun _ _ hk => hk, fun _ hitem => hitem⟩
    exact h.replace hi hgrows (fun _ hd => .inl hd) (by simp) h.intakes h.items
      (known_running trivial)
  | createDocument =>
    dsimp only [CheckedCall.advance]
    split
    · next d hd => exact h.goOn hi (by simp) (known_running (IntakeTables.documentFor_lt hd))
    · have hlength : (s.tables.documents ++ [c.newDocument]).length =
          s.tables.documents.length + 1 := by simp
      refine h.replace hi ⟨?_, fun _ _ hk => hk, fun _ hitem => hitem⟩ (fun d hd => ?_) (by simp)
        (fun intake hintake => ?_) h.items (known_running ?_)
      · show _ ≤ (s.tables.documents ++ [c.newDocument]).length
        omega
      · have hd' : d < (s.tables.documents ++ [c.newDocument]).length := hd
        by_cases hold : d < s.tables.documents.length
        · exact .inl hold
        · obtain rfl : d = s.tables.documents.length := by omega
          exact .inr rfl
      · exact Nat.lt_of_lt_of_eq (Nat.lt_succ_of_lt (h.intakes intake hintake)) hlength.symm
      · show _ < (s.tables.documents ++ [c.newDocument]).length
        omega
  | updatePages d =>
    have hlength : (s.tables.documents.modify d
        ({ · with pageCount := c.validated.pageCount })).length = s.tables.documents.length :=
      List.length_modify ..
    refine h.replace hi ⟨?_, fun _ _ hk => hk, fun _ hitem => hitem⟩ (fun d' hd' => ?_) (by simp)
      (fun intake hintake => ?_) h.items (known_running ?_)
    · exact hlength.ge
    · exact .inl (Nat.lt_of_lt_of_eq hd' hlength)
    · exact Nat.lt_of_lt_of_eq (h.intakes intake hintake) hlength.symm
    · exact Nat.lt_of_lt_of_eq (h.known i c _ hi) hlength.symm
  | createIntake d isDuplicate =>
    dsimp only [CheckedCall.advance]
    split
    · next htaken =>
      refine h.goOn hi (fun hlossless d' hd' => ?_) (known_running trivial)
      -- the creator of a document finds its source free
      cases hd'
      have hfree := hloses hlossless
      simp only [IntakeState.loses, hi] at hfree
      rw [hfree] at htaken
      cases htaken
    · exact h.createIntake hi _
  | resolveConflict =>
    dsimp only [CheckedCall.advance]
    split
    · exact h.goOn hi (by simp) known_over
    · next k hk => exact h.goOn hi (by simp) (known_adoptOrRefuse (IntakeTables.intakeFor_lt hk))
  | adopt k =>
    dsimp only [CheckedCall.advance, IntakeTables.adoptIntake]
    split
    · exact h.goOn hi (by simp) known_over
    · refine h.replace hi ⟨le_rfl, fun _ _ hk => hk, fun item hitem => ?_⟩
        (fun _ hd => .inl hd) (by simp) h.intakes (fun item hitem => ?_) known_over
      · exact List.mem_append_left _ hitem
      · rcases List.mem_append.1 hitem with hold | hnew
        · exact h.items item hold
        · rw [List.mem_singleton.1 hnew]
          exact h.known i c _ hi

/-- **A step that loses no document.** -/
theorem step (h : IntakeKept lossless s) (x : IntakeStep) (hx : lossless → s.loses x = false) :
    IntakeKept lossless (s.step x) := by
  have hstart : ∀ p : IngestProcess,
      (∀ c phase, p = .running c phase → phase.Known s.tables) →
        IntakeKept lossless { s with processes := s.processes ++ [p] } := by
    intro p hp
    refine ⟨fun hlossless d hd => ?_, h.intakes, h.items, fun j c phase hj => ?_⟩
    · exact (h.accounted hlossless d hd).imp_right fun ⟨j, c, hj⟩ => ⟨j, c, Rows.append_some hj⟩
    · rcases Rows.append_cases hj with hold | ⟨-, hnew⟩
      · exact h.known j c phase hold
      · exact hp c phase hnew.symm
  cases x with
  | start c =>
    dsimp only [IntakeState.step]
    split
    · exact hstart _ known_over
    · exact hstart _ (known_running trivial)
  | advance i =>
    rcases s.running_or_idle i with ⟨c, phase, hi⟩ | hidle
    · exact h.advance hi hx
    · rw [(hidle _ (.inl rfl)).1]
      exact h
  | interrupt i =>
    dsimp only [IntakeState.step]
    split
    · next c phase hi =>
      refine h.goOn hi (fun hlossless d hd => ?_) known_over
      have hlives := hx hlossless
      subst hd
      simp [IntakeState.loses, hi] at hlives
    · exact h

theorem initial : IntakeKept lossless {} where
  accounted _ d hd := absurd hd (Nat.not_lt_zero d)
  intakes intake h := by cases h
  items item h := by cases h
  known i c phase h := by cases h

/-- **A history in which no call loses a document.** -/
theorem after (h : IntakeKept True s) (xs : List IntakeStep) (hxs : s.LosesNothing xs) :
    IntakeKept True (s.after xs) := by
  induction xs generalizing s with
  | nil => exact h
  | cons x xs ih => exact ih (h.step x fun _ => hxs.1) hxs.2

theorem allOrNothing (h : IntakeKept True s) : s.AllOrNothing := by
  intro hquiet
  have hdocuments : ∀ d < s.tables.documents.length, s.TakenIn d := by
    intro d hd
    rcases h.accounted trivial d hd with htaken | ⟨i, c, hi⟩
    · exact htaken
    · obtain ⟨r, hr⟩ := hquiet _ (List.mem_of_getElem? hi)
      cases hr
  refine ⟨hdocuments, fun item hitem _ => ?_⟩
  have hlt := h.items item hitem
  refine ⟨_, List.getElem?_eq_getElem hlt, hdocuments _ ?_⟩
  exact h.intakes _ (List.getElem_mem hlt)

end IntakeKept

section Creators

/-- Call `i` has created document `d`, and is about to create its intake. -/
def IntakeState.Creates (s : IntakeState) (i : ℕ) (d : DocumentId) : Prop :=
  ∃ c, s.processes[i]? = some (.running c (.createIntake d false))

/-- A document has one creator, and is not taken in before its creator does it. -/
structure Creators (s : IntakeState) : Prop where
  alone : ∀ i j d, s.Creates i d → s.Creates j d → i = j
  pending : ∀ i d, s.Creates i d → ¬ s.TakenIn d

/-- Nobody will take the document in. -/
structure Lost (d : DocumentId) (s : IntakeState) : Prop where
  created : d < s.tables.documents.length
  notTaken : ¬ s.TakenIn d
  nobody : ∀ i, ¬ s.Creates i d

variable {s : IntakeState} {t : IntakeTables} {i : ℕ} {c c' : CheckedCall} {phase : IngestPhase}
  {d : DocumentId}

theorem takenIn_of_same (hitems : t.items = s.tables.items) (hintakes : t.intakes = s.tables.intakes)
    {ps : List IngestProcess} (h : IntakeState.TakenIn ⟨t, ps⟩ d) : s.TakenIn d := by
  obtain ⟨item, hitem, hnew, intake, hintake, hdoc⟩ := h
  rw [show (IntakeState.mk t ps).tables.items = _ from hitems] at hitem
  rw [show (IntakeState.mk t ps).tables.intakes = _ from hintakes] at hintake
  exact ⟨item, hitem, hnew, intake, hintake, hdoc⟩

/-- Only its creator takes a document in. -/
theorem takenIn_advance (h : IntakeKept False s) (c : CheckedCall) (phase : IngestPhase)
    {ps : List IngestProcess} (ht : IntakeState.TakenIn ⟨(c.advance s.tables phase).1, ps⟩ d) :
    s.TakenIn d ∨ phase = .createIntake d false := by
  cases phase with
  | createIntake d' isDuplicate =>
    dsimp only [CheckedCall.advance] at ht
    split at ht
    · exact .inl (takenIn_of_same rfl rfl ht)
    · obtain ⟨item, hitem, hnew, intake, hintake, hdoc⟩ := ht
      dsimp only at hitem hintake
      rcases List.mem_append.1 hitem with hold | hlast
      · rw [List.getElem?_append_left (h.items item hold)] at hintake
        exact .inl ⟨item, hold, hnew, intake, hintake, hdoc⟩
      · obtain rfl := List.mem_singleton.1 hlast
        have hrow : intake = c.newIntake d' isDuplicate := by
          rw [List.getElem?_append_right le_rfl] at hintake
          simpa using hintake.symm
        obtain rfl : d' = d := by rw [← hdoc, hrow]; rfl
        cases isDuplicate with
        | false => exact .inr rfl
        | true => cases hnew
  | adopt k =>
    dsimp only [CheckedCall.advance, IntakeTables.adoptIntake] at ht
    split at ht
    · exact .inl (takenIn_of_same rfl rfl ht)
    · obtain ⟨item, hitem, hnew, hrest⟩ := ht
      rcases List.mem_append.1 hitem with hold | hlast
      · exact .inl ⟨item, hold, hnew, hrest⟩
      · rw [List.mem_singleton.1 hlast] at hnew
        cases hnew
  | findIntake | findDocument | put | createDocument | updatePages d' | resolveConflict =>
    refine .inl (takenIn_of_same ?_ ?_ ht)
    all_goals
      dsimp only [CheckedCall.advance]
      repeat' split
      all_goals rfl

/-- Who becomes the creator of a document has just inserted its row. -/
theorem creator_advance (s : IntakeTables)
    (h : (c.advance s phase).2 = .running c' (.createIntake d false)) :
    phase = .createDocument ∧ d = s.documents.length := by
  have hadopt : ∀ k, c.adoptOrRefuse s k ≠ .running c' (.createIntake d false) := by
    intro k hk
    unfold CheckedCall.adoptOrRefuse at hk
    split at hk <;> cases hk
  cases phase with
  | createDocument =>
    dsimp only [CheckedCall.advance] at h
    split at h
    · cases h
    · cases h
      exact ⟨rfl, rfl⟩
  | findIntake | resolveConflict =>
    dsimp only [CheckedCall.advance] at h
    split at h
    all_goals first | exact absurd h (hadopt _) | cases h
  | findDocument | put | updatePages d' | createIntake d' isDuplicate | adopt k =>
    dsimp only [CheckedCall.advance] at h
    repeat' split at h
    all_goals cases h

theorem documents_advance (s : IntakeTables) (c : CheckedCall) (phase : IngestPhase) :
    s.documents.length ≤ (c.advance s phase).1.documents.length := by
  cases phase with
  | createDocument =>
    dsimp only [CheckedCall.advance]
    split
    · exact le_rfl
    · rw [List.length_append]
      exact Nat.le_add_right _ _
  | updatePages d => exact (List.length_modify ..).ge
  | findIntake | findDocument | put | createIntake d isDuplicate | resolveConflict | adopt k =>
    dsimp only [CheckedCall.advance, IntakeTables.adoptIntake]
    repeat' split
    all_goals exact le_rfl

theorem creates_set {p : IngestProcess} {j : ℕ}
    (h : IntakeState.Creates ⟨t, s.processes.set i p⟩ j d) :
    (j ≠ i ∧ s.Creates j d) ∨ (j = i ∧ ∃ c, p = .running c (.createIntake d false)) := by
  obtain ⟨c, hc⟩ := h
  rcases Rows.set_cases hc with ⟨hij, hnew⟩ | ⟨hij, hold⟩
  · exact .inr ⟨hij, c, hnew.symm⟩
  · exact .inl ⟨hij, c, hold⟩

theorem creates_append {p : IngestProcess} {j : ℕ}
    (hp : ∀ c, p ≠ .running c (.createIntake d false))
    (h : IntakeState.Creates { s with processes := s.processes ++ [p] } j d) : s.Creates j d := by
  obtain ⟨c, hc⟩ := h
  dsimp only at hc
  rcases Rows.append_cases hc with hold | ⟨-, hnew⟩
  · exact ⟨c, hold⟩
  · exact absurd hnew.symm (hp c)

theorem taken_created (h : IntakeKept False s) (ht : s.TakenIn d) :
    d < s.tables.documents.length := by
  obtain ⟨item, -, -, intake, hintake, rfl⟩ := ht
  exact h.intakes intake (List.mem_of_getElem? hintake)

/-- A step is a start, a step of a running call, its interruption, or nothing. -/
theorem step_cases (s : IntakeState) (x : IntakeStep) :
    (s.step x = s ∧ s.loses x = false) ∨
    (∃ p, (∀ c d, p ≠ .running c (.createIntake d false)) ∧ s.loses x = false ∧
      s.step x = { s with processes := s.processes ++ [p] }) ∨
    ∃ i c phase, s.processes[i]? = some (.running c phase) ∧
      (x = .advance i ∧ s.step x =
          ⟨(c.advance s.tables phase).1, s.processes.set i (c.advance s.tables phase).2⟩ ∨
        x = .interrupt i ∧
          s.step x = ⟨s.tables, s.processes.set i (.ended (.error .interrupted))⟩) := by
  cases x with
  | start call =>
    refine .inr (.inl ?_)
    cases hcheck : call.check with
    | error e =>
      exact ⟨.ended (.error e), by simp, rfl, by simp only [IntakeState.step, hcheck]⟩
    | ok c =>
      exact ⟨.running c .findIntake, by simp, rfl, by simp only [IntakeState.step, hcheck]⟩
  | advance i =>
    rcases s.running_or_idle i with ⟨c, phase, hi⟩ | hidle
    · exact .inr (.inr ⟨i, c, phase, hi, .inl ⟨rfl, by simp only [IntakeState.step, hi]⟩⟩)
    · exact .inl (hidle _ (.inl rfl))
  | interrupt i =>
    rcases s.running_or_idle i with ⟨c, phase, hi⟩ | hidle
    · exact .inr (.inr ⟨i, c, phase, hi, .inr ⟨rfl, by simp only [IntakeState.step, hi]⟩⟩)
    · exact .inl (hidle _ (.inr rfl))

theorem Creators.step (hc : Creators s) (h : IntakeKept False s) (x : IntakeStep) :
    Creators (s.step x) := by
  rcases step_cases s x with ⟨hx, -⟩ | ⟨p, hp, -, hx⟩ | ⟨i, c, phase, hi, ⟨-, hx⟩ | ⟨-, hx⟩⟩
  all_goals rw [hx]
  · exact hc
  · exact ⟨fun j k d hj hk => hc.alone j k d (creates_append (hp · d) hj) (creates_append (hp · d) hk),
      fun j d hj => hc.pending j d (creates_append (hp · d) hj)⟩
  · -- the new creator, if any, has the last document
    have hnew : ∀ d, (∃ c', (c.advance s.tables phase).2 = .running c' (.createIntake d false)) →
        phase = .createDocument ∧ d = s.tables.documents.length :=
      fun d ⟨c', hc'⟩ => creator_advance s.tables hc'
    have hold : ∀ j d, s.Creates j d → d < s.tables.documents.length :=
      fun j d ⟨c', hj⟩ => h.known j c' _ hj
    refine ⟨fun j k d hj hk => ?_, fun j d hj ht => ?_⟩
    · rcases creates_set hj with ⟨-, hj'⟩ | ⟨rfl, hj'⟩ <;>
        rcases creates_set hk with ⟨-, hk'⟩ | ⟨rfl, hk'⟩
      · exact hc.alone j k d hj' hk'
      · exact absurd (hold j d hj') (by rw [(hnew d hk').2]; exact Nat.lt_irrefl _)
      · exact absurd (hold k d hk') (by rw [(hnew d hj').2]; exact Nat.lt_irrefl _)
      · rfl
    · rcases takenIn_advance h c phase ht with htaken | rfl
      · rcases creates_set hj with ⟨-, hj'⟩ | ⟨rfl, hj'⟩
        · exact hc.pending j d hj' htaken
        · exact absurd (taken_created h htaken) (by rw [(hnew d hj').2]; exact Nat.lt_irrefl _)
      · rcases creates_set hj with ⟨hne, hj'⟩ | ⟨rfl, hj'⟩
        · exact hne (hc.alone j i d hj' ⟨c, hi⟩)
        · cases (hnew d hj').1
  · have hlt := (List.getElem?_eq_some_iff.1 hi).1
    have hback : ∀ j d, IntakeState.Creates ⟨s.tables, s.processes.set i (.ended (.error .interrupted))⟩
        j d → s.Creates j d := by
      intro j d hj
      rcases creates_set hj with ⟨-, hj'⟩ | ⟨-, c', hc'⟩
      · exact hj'
      · cases hc'
    exact ⟨fun j k d hj hk => hc.alone j k d (hback j d hj) (hback k d hk),
      fun j d hj => hc.pending j d (hback j d hj)⟩

/-- A step that loses a document. -/
theorem lost_of_loses (hc : Creators s) (h : IntakeKept False s) {x : IntakeStep}
    (hx : s.loses x = true) : ∃ d, Lost d (s.step x) := by
  have hgone : ∀ i c d (p : IngestProcess),
      s.processes[i]? = some (.running c (.createIntake d false)) →
      (∀ c', p ≠ .running c' (.createIntake d false)) →
        Lost d ⟨s.tables, s.processes.set i p⟩ := by
    intro i c d p hi hp
    refine ⟨h.known i c _ hi, hc.pending i d ⟨c, hi⟩, fun j hj => ?_⟩
    rcases creates_set hj with ⟨hne, hj'⟩ | ⟨-, c', hc'⟩
    · exact hne (hc.alone j i d hj' ⟨c, hi⟩)
    · exact hp c' hc'
  cases x with
  | start call => cases hx
  | advance i =>
    dsimp only [IntakeState.loses] at hx
    split at hx
    · next c d hi =>
      have hstep : s.step (.advance i) =
          ⟨s.tables, s.processes.set i (.running c .resolveConflict)⟩ := by
        simp only [IntakeState.step, hi, CheckedCall.advance, hx, if_true]
      rw [hstep]
      exact ⟨d, hgone i c d _ hi (by simp)⟩
    · cases hx
  | interrupt i =>
    dsimp only [IntakeState.loses] at hx
    split at hx
    · next c d hi =>
      have hstep : s.step (.interrupt i) =
          ⟨s.tables, s.processes.set i (.ended (.error .interrupted))⟩ := by
        simp only [IntakeState.step, hi]
      rw [hstep]
      exact ⟨d, hgone i c d _ hi (by simp)⟩
    · cases hx

/-- A lost document stays lost. -/
theorem Lost.step (hd : Lost d s) (h : IntakeKept False s) (x : IntakeStep) :
    Lost d (s.step x) := by
  rcases step_cases s x with ⟨hx, -⟩ | ⟨p, hp, -, hx⟩ | ⟨i, c, phase, hi, ⟨-, hx⟩ | ⟨-, hx⟩⟩
  all_goals rw [hx]
  · exact hd
  · exact ⟨hd.created, hd.notTaken, fun j hj => hd.nobody j (creates_append (hp · d) hj)⟩
  · refine ⟨Nat.lt_of_lt_of_le hd.created (documents_advance ..), fun ht => ?_, fun j hj => ?_⟩
    · rcases takenIn_advance h c phase ht with htaken | rfl
      · exact hd.notTaken htaken
      · exact hd.nobody i ⟨c, hi⟩
    · rcases creates_set hj with ⟨-, hj'⟩ | ⟨-, c', hc'⟩
      · exact hd.nobody j hj'
      · have hlast := (creator_advance s.tables hc').2
        exact absurd hd.created (by rw [hlast]; exact Nat.lt_irrefl _)
  · refine ⟨hd.created, hd.notTaken, fun j hj => ?_⟩
    rcases creates_set hj with ⟨-, hj'⟩ | ⟨-, c', hc'⟩
    · exact hd.nobody j hj'
    · cases hc'

theorem Lost.after (hd : Lost d s) (h : IntakeKept False s) (xs : List IntakeStep) :
    Lost d (s.after xs) := by
  induction xs generalizing s with
  | nil => exact hd
  | cons x xs ih => exact ih (hd.step h x) (h.step x False.elim)

/-- **A history that loses a document never finds it again.** -/
theorem lost_after (hc : Creators s) (h : IntakeKept False s) (xs : List IntakeStep)
    (hxs : ¬ s.LosesNothing xs) : ∃ d, Lost d (s.after xs) := by
  induction xs generalizing s with
  | nil => exact absurd trivial hxs
  | cons x xs ih =>
    have hnext := h.step x False.elim
    cases hx : s.loses x with
    | true =>
      obtain ⟨d, hd⟩ := lost_of_loses hc h hx
      exact ⟨d, hd.after hnext xs⟩
    | false => exact ih (hc.step h x) hnext fun hrest => hxs ⟨hx, hrest⟩

end Creators

/-- **The calls leave every document taken in exactly when none of them loses the document it has
created**, in every history that ends with no call in progress. -/
theorem run_allOrNothing (xs : List IntakeStep) (hquiet : (IntakeState.after {} xs).Quiet) :
    (IntakeState.after {} xs).AllOrNothing ↔ IntakeState.LosesNothing {} xs := by
  constructor
  · intro hall
    by_contra hxs
    have hnobody : ∀ i d, ¬ IntakeState.Creates {} i d := by
      rintro i d ⟨c, hc⟩
      cases hc
    have hcreators : Creators {} :=
      ⟨fun i _ d hi => absurd hi (hnobody i d), fun i d hi => absurd hi (hnobody i d)⟩
    obtain ⟨d, hd⟩ := lost_after hcreators .initial xs hxs
    exact hd.notTaken ((hall hquiet).1 d hd.created)
  · intro hxs
    exact (IntakeKept.initial.after xs hxs).allOrNothing

section Histories

/-- The call has ended. -/
def IngestProcess.isOver : IngestProcess → Bool
  | ended _ => true
  | running _ _ => false

theorem quiet_of_isOver {s : IntakeState} (h : s.processes.all IngestProcess.isOver = true) :
    s.Quiet := by
  intro p hp
  have hover := List.all_eq_true.1 h p hp
  cases p with
  | ended r => exact ⟨r, rfl⟩
  | running c phase => cases hover

/-- The same attachment, offered by run `r`. -/
def sameAttachment (r : RunId) : IngestCall where
  run := r
  source := some .simulatedInbox
  sourceReference := "inbox:1"
  validated :=
    { filename := "nota.pdf", mediaType := "application/pdf", extension := ".pdf", content := [37]
      sha256 := "ab" }

/-- Two runs offer the same attachment, and their calls take turns. -/
def offeredTwice : List IntakeStep :=
  [.start (sameAttachment 0), .start (sameAttachment 1), .advance 0, .advance 0, .advance 1,
    .advance 0, .advance 0, .advance 1, .advance 0, .advance 1, .advance 1, .advance 1]

/-- The first takes the document in, and the second finds the intake of the first. -/
theorem run_allOrNothing_upload : (IntakeState.after {} offeredTwice).AllOrNothing :=
  (run_allOrNothing _ (quiet_of_isOver (by decide +kernel))).2
    ⟨rfl, rfl, rfl, rfl, rfl, rfl, rfl, rfl, rfl, rfl, rfl, rfl, trivial⟩

/-- A call dies between its document and its intake. And of two runs that offer the same
attachment, one creates the document and the other its intake, as a duplicate. -/
theorem lost_document :
    ¬ (IntakeState.after {} [.start (sameAttachment 0), .advance 0, .advance 0, .advance 0,
      .advance 0, .interrupt 0]).AllOrNothing ∧
    ¬ (IntakeState.after {} [.start (sameAttachment 0), .start (sameAttachment 1), .advance 0,
      .advance 1, .advance 0, .advance 0, .advance 0, .advance 1, .advance 1, .advance 0,
      .advance 0, .advance 0]).AllOrNothing := by
  have hlost : ∀ xs : List IntakeStep,
      (IntakeState.after {} xs).processes.all IngestProcess.isOver = true →
      0 < (IntakeState.after {} xs).tables.documents.length →
      (∀ item ∈ (IntakeState.after {} xs).tables.items, item.outcome ≠ .new) →
      ¬ (IntakeState.after {} xs).AllOrNothing := by
    intro xs hquiet hcreated hitems hall
    obtain ⟨item, hitem, hnew, -⟩ := (hall (quiet_of_isOver hquiet)).1 0 hcreated
    exact hitems item hitem hnew
  exact ⟨hlost _ (by decide +kernel) (by decide +kernel) (by decide +kernel),
    hlost _ (by decide +kernel) (by decide +kernel) (by decide +kernel)⟩

end Histories

end SheepContabil
