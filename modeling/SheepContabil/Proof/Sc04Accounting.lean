import Mathlib.Data.Finset.Card
import Mathlib.Data.Finset.Image
import Mathlib.Data.Finset.Range
import Mathlib.Data.List.Dedup
import SheepContabil.Proof.DocumentIntake
import SheepContabil.Spec.Sc04Accounting

/-!
# The result of several passes

* `IntakeKeyed`: a source has one intake, and an intake one item in a run; the calls of a run are
  those of its attachments, and a document is new in one item only.
* `PassesKept`: the counter in the metadata is the number of attachments behind it.
* `accounted_iff`: the accounting holds exactly when the failures that are counted stay failures.
-/

namespace SheepContabil

open Py

section Keys

/-- **What holds of the keys of the tables and of the calls.** -/
structure IntakeKeyed (r : RunId) (sources : DocumentSource → String → Prop) (s : IntakeState) :
    Prop where
  keys : ∀ (k k' : IntakeId) (x x' : DocumentIntake), s.tables.intakes[k]? = some x →
    s.tables.intakes[k']? = some x' → x.source = x'.source →
    x.sourceReference = x'.sourceReference → k = k'
  items : s.tables.items.Pairwise fun a b => a.run = b.run → a.intake ≠ b.intake
  adopting : ∀ (i : ℕ) (c : CheckedCall) (k : IntakeId),
    s.processes[i]? = some (.running c (.adopt k)) →
    ∃ x, s.tables.intakes[k]? = some x ∧ x.source = c.source ∧ x.sourceReference = c.reference
  calls : ∀ (i : ℕ) (c : CheckedCall) (phase : IngestPhase),
    s.processes[i]? = some (.running c phase) → c.run = r → sources c.source c.reference
  own : ∀ item ∈ s.tables.items, item.run = r →
    ∃ x, s.tables.intakes[item.intake]? = some x ∧ sources x.source x.sourceReference
  fresh : s.tables.items.Pairwise fun a b => a.outcome = .new → b.outcome = .new →
    s.tables.documentOf a.intake ≠ s.tables.documentOf b.intake

variable {r : RunId} {sources : DocumentSource → String → Prop} {s : IntakeState}
  {t : IntakeTables} {i : ℕ} {c : CheckedCall} {phase : IngestPhase}

theorem IntakeTables.intakeFor_key {source : DocumentSource} {reference : String} {k : IntakeId}
    (h : t.intakeFor source reference = some k) :
    ∃ x, t.intakes[k]? = some x ∧ x.source = source ∧ x.sourceReference = reference := by
  obtain ⟨hk, hkey, -⟩ := List.findIdx?_eq_some_iff_getElem.1 h
  simp only [Bool.and_eq_true, beq_iff_eq] at hkey
  exact ⟨t.intakes[k], List.getElem?_eq_getElem hk, hkey.1, hkey.2⟩

theorem IntakeTables.intakeFor_none {source : DocumentSource} {reference : String}
    (h : (t.intakeFor source reference).isSome = false) {k : IntakeId} {x : DocumentIntake}
    (hx : t.intakes[k]? = some x) (hsource : x.source = source) :
    x.sourceReference ≠ reference := by
  rw [Option.isSome_eq_false_iff, Option.isNone_iff_eq_none] at h
  have hnot := List.findIdx?_eq_none_iff.1 h x (List.mem_of_getElem? hx)
  intro hreference
  simp [hsource, hreference] at hnot

/-- The rows that the calls read are written by two phases only. -/
theorem advance_rows (t : IntakeTables) (hcreate : ∀ d b, phase ≠ .createIntake d b)
    (hadopt : ∀ k, phase ≠ .adopt k) :
    (c.advance t phase).1.intakes = t.intakes ∧ (c.advance t phase).1.items = t.items := by
  cases phase with
  | createIntake d b => exact absurd rfl (hcreate d b)
  | adopt k => exact absurd rfl (hadopt k)
  | findIntake | findDocument | put | createDocument | updatePages d | resolveConflict =>
    dsimp only [CheckedCall.advance]
    repeat' split
    all_goals exact ⟨rfl, rfl⟩

/-- A call that goes on to adopt an intake has read it under its own key. -/
theorem advance_adopt {c' : CheckedCall} {k : IntakeId}
    (h : (c.advance t phase).2 = .running c' (.adopt k)) :
    c' = c ∧ (c.advance t phase).1.intakes = t.intakes ∧
      ∃ x, t.intakes[k]? = some x ∧ x.source = c.source ∧ x.sourceReference = c.reference := by
  have hfound : ∀ k₀, t.intakeFor c.source c.reference = some k₀ →
      c.adoptOrRefuse t k₀ = .running c' (.adopt k) → c' = c ∧
        ∃ x, t.intakes[k]? = some x ∧ x.source = c.source ∧ x.sourceReference = c.reference := by
    intro k₀ hk₀ hgo
    unfold CheckedCall.adoptOrRefuse at hgo
    split at hgo
    · cases hgo
      exact ⟨rfl, IntakeTables.intakeFor_key hk₀⟩
    · cases hgo
  cases phase with
  | findIntake =>
    dsimp only [CheckedCall.advance] at h ⊢
    split at h
    · next k₀ hk₀ =>
      exact ⟨(hfound k₀ hk₀ h).1, rfl, (hfound k₀ hk₀ h).2⟩
    · cases h
  | resolveConflict =>
    dsimp only [CheckedCall.advance] at h ⊢
    split at h
    · cases h
    · next k₀ hk₀ =>
      exact ⟨(hfound k₀ hk₀ h).1, rfl, (hfound k₀ hk₀ h).2⟩
  | findDocument | put | createDocument | updatePages d | createIntake d b | adopt k₀ =>
    dsimp only [CheckedCall.advance] at h
    repeat' split at h
    all_goals cases h

/-- The call that goes on is the same. -/
theorem advance_call {c' : CheckedCall} {phase' : IngestPhase}
    (h : (c.advance t phase).2 = .running c' phase') : c' = c := by
  have hadopt : ∀ k, c.adoptOrRefuse t k = .running c' phase' → c' = c := by
    intro k hgo
    unfold CheckedCall.adoptOrRefuse at hgo
    split at hgo <;> cases hgo
    rfl
  cases phase with
  | findIntake | resolveConflict =>
    dsimp only [CheckedCall.advance] at h
    split at h
    all_goals first | exact hadopt _ h | (cases h; rfl) | cases h
  | findDocument | put | createDocument | updatePages d | createIntake d b | adopt k =>
    dsimp only [CheckedCall.advance] at h
    repeat' split at h
    all_goals first | (cases h; rfl) | cases h

theorem documentOf_eq {k : IntakeId} {x : DocumentIntake} (hx : t.intakes[k]? = some x) :
    t.documentOf k = x.document := by
  simp [IntakeTables.documentOf, hx]

theorem check_run {call : IngestCall} (h : call.check = .ok c) : c.run = call.run := by
  unfold IngestCall.check at h
  split at h
  · cases h
  · split at h
    · cases h
    · cases h
      rfl

/-- A process of the list with one replaced. -/
theorem getElem?_set_cases {p q : IngestProcess} {j : ℕ}
    (h : (s.processes.set i p)[j]? = some q) : s.processes[j]? = some q ∨ q = p := by
  rcases Rows.set_cases h with ⟨-, hnew⟩ | ⟨-, hold⟩
  · exact .inr hnew
  · exact .inl hold

namespace IntakeKeyed

/-- The rows stay. -/
theorem of_rows (h : IntakeKeyed r sources s) {s' : IntakeState}
    (hintakes : s'.tables.intakes = s.tables.intakes) (hitems : s'.tables.items = s.tables.items)
    (hadopting : ∀ (i : ℕ) (c : CheckedCall) (k : IntakeId),
      s'.processes[i]? = some (.running c (.adopt k)) →
      ∃ x, s.tables.intakes[k]? = some x ∧ x.source = c.source ∧ x.sourceReference = c.reference)
    (hcalls : ∀ (i : ℕ) (c : CheckedCall) (phase : IngestPhase),
      s'.processes[i]? = some (.running c phase) → c.run = r → sources c.source c.reference) :
    IntakeKeyed r sources s' where
  keys := by rw [hintakes]; exact h.keys
  items := by rw [hitems]; exact h.items
  adopting := by rw [hintakes]; exact hadopting
  calls := hcalls
  own := by rw [hitems, hintakes]; exact h.own
  fresh := by
    have hdocument : s'.tables.documentOf = s.tables.documentOf := by
      funext k
      rw [IntakeTables.documentOf, IntakeTables.documentOf, hintakes]
    rw [hitems, hdocument]
    exact h.fresh

/-- A call that ends without a row. -/
theorem setEnded (h : IntakeKeyed r sources s) (i : ℕ) (result : Except IngestError IngestionResult) :
    IntakeKeyed r sources { s with processes := s.processes.set i (.ended result) } := by
  refine h.of_rows rfl rfl (fun j c k hj => ?_) fun j c phase hj hrun => ?_
  · rcases getElem?_set_cases hj with hj | hj
    · exact h.adopting j c k hj
    · cases hj
  · rcases getElem?_set_cases hj with hj | hj
    · exact h.calls j c phase hj hrun
    · cases hj

/-- A call ends after it has inserted its item, and perhaps its intake. -/
theorem insert (h : IntakeKeyed r sources s) (hk : IntakeKept False s) {result}
    {intakes : List DocumentIntake} {item : DocumentRunItem}
    (hkeys : ∀ (k k' : IntakeId) (x x' : DocumentIntake),
      (s.tables.intakes ++ intakes)[k]? = some x → (s.tables.intakes ++ intakes)[k']? = some x' →
      x.source = x'.source → x.sourceReference = x'.sourceReference → k = k')
    (hitem : ∀ a ∈ s.tables.items, a.run = item.run → a.intake ≠ item.intake)
    (hown : item.run = r → ∃ x, (s.tables.intakes ++ intakes)[item.intake]? = some x ∧
      sources x.source x.sourceReference)
    (hfresh : item.outcome = .new → ∃ x, (s.tables.intakes ++ intakes)[item.intake]? = some x ∧
      ¬ s.TakenIn x.document) :
    IntakeKeyed r sources
      ⟨{ s.tables with intakes := s.tables.intakes ++ intakes, items := s.tables.items ++ [item] },
        s.processes.set i (.ended result)⟩ := by
  have hdocument : ∀ a ∈ s.tables.items,
      ({ s.tables with intakes := s.tables.intakes ++ intakes, items := s.tables.items ++ [item] } :
        IntakeTables).documentOf a.intake = s.tables.documentOf a.intake := by
    intro a ha
    have hx := List.getElem?_eq_getElem (hk.items a ha)
    rw [documentOf_eq (Rows.append_some hx), documentOf_eq hx]
  refine ⟨hkeys, ?_, ?_, ?_, ?_, ?_⟩
  · rw [List.pairwise_append]
    refine ⟨h.items, List.pairwise_singleton _ _, fun a ha b hb hrun => ?_⟩
    obtain rfl := List.mem_singleton.1 hb
    exact hitem a ha hrun
  · intro j c k hj
    rcases getElem?_set_cases hj with hj | hj
    · obtain ⟨x, hx, hkey⟩ := h.adopting j c k hj
      exact ⟨x, Rows.append_some hx, hkey⟩
    · cases hj
  · intro j c phase hj hrun
    rcases getElem?_set_cases hj with hj | hj
    · exact h.calls j c phase hj hrun
    · cases hj
  · intro a ha hrun
    rcases List.mem_append.1 ha with ha | ha
    · obtain ⟨x, hx, hsource⟩ := h.own a ha hrun
      exact ⟨x, Rows.append_some hx, hsource⟩
    · obtain rfl := List.mem_singleton.1 ha
      exact hown hrun
  · rw [List.pairwise_append]
    refine ⟨?_, List.pairwise_singleton _ _, fun a ha b hb hanew hbnew heq => ?_⟩
    · refine h.fresh.imp_of_mem fun {a b} ha hb hab hanew hbnew => ?_
      rw [hdocument a ha, hdocument b hb]
      exact hab hanew hbnew
    · obtain rfl := List.mem_singleton.1 hb
      obtain ⟨x, hx, hnot⟩ := hfresh hbnew
      have ha' := List.getElem?_eq_getElem (hk.items a ha)
      have hb' : ({ s.tables with
          intakes := s.tables.intakes ++ intakes, items := s.tables.items ++ [b] } :
            IntakeTables).documentOf b.intake = x.document := documentOf_eq hx
      rw [hdocument a ha, hb', documentOf_eq ha'] at heq
      exact hnot ⟨a, ha, hanew, _, ha', heq⟩

/-- **A step of a call.** -/
theorem advance (h : IntakeKeyed r sources s) (hk : IntakeKept False s) (hc : Creators s)
    (hi : s.processes[i]? = some (.running c phase)) :
    IntakeKeyed r sources
      ⟨(c.advance s.tables phase).1, s.processes.set i (c.advance s.tables phase).2⟩ := by
  -- a step that writes no row only moves its call
  have hquiet : (c.advance s.tables phase).1.intakes = s.tables.intakes →
      (c.advance s.tables phase).1.items = s.tables.items → IntakeKeyed r sources
        ⟨(c.advance s.tables phase).1, s.processes.set i (c.advance s.tables phase).2⟩ := by
    intro hintakes hitems
    refine h.of_rows hintakes hitems (fun j c' k hj => ?_) fun j c' phase' hj hrun => ?_
    · rcases getElem?_set_cases hj with hj | hj
      · exact h.adopting j c' k hj
      · obtain ⟨rfl, -, hkey⟩ := advance_adopt hj.symm
        exact hkey
    · rcases getElem?_set_cases hj with hj | hj
      · exact h.calls j c' phase' hj hrun
      · obtain rfl := advance_call hj.symm
        exact h.calls i c' phase hi hrun
  cases phase with
  | findIntake | findDocument | put | createDocument | updatePages d | resolveConflict =>
    refine hquiet (advance_rows s.tables ?_ ?_).1 (advance_rows s.tables ?_ ?_).2 <;> simp
  | createIntake d isDuplicate =>
    cases hfound : (s.tables.intakeFor c.source c.reference).isSome with
    | true =>
      refine hquiet ?_ ?_ <;> simp [CheckedCall.advance, hfound]
    | false =>
      have hnew : (s.tables.intakes ++ [c.newIntake d isDuplicate])[s.tables.intakes.length]? =
          some (c.newIntake d isDuplicate) := by simp
      simp only [CheckedCall.advance, hfound, Bool.false_eq_true, if_false]
      refine h.insert hk ?_ ?_ ?_ ?_
      · intro k k' x x' hx hx' hsource hreference
        -- the query of the transaction has found no row with the key of the new one
        rcases Rows.append_cases hx with hx | ⟨rfl, rfl⟩ <;>
          rcases Rows.append_cases hx' with hx' | ⟨rfl, rfl⟩
        · exact h.keys k k' x x' hx hx' hsource hreference
        · exact absurd hreference (IntakeTables.intakeFor_none hfound hx hsource)
        · exact absurd hreference.symm (IntakeTables.intakeFor_none hfound hx' hsource.symm)
        · rfl
      · intro a ha _
        exact Nat.ne_of_lt (hk.items a ha)
      · intro hrun
        exact ⟨_, hnew, h.calls i c _ hi hrun⟩
      · intro houtcome
        cases isDuplicate with
        | true => cases houtcome
        | false => exact ⟨_, hnew, hc.pending i d ⟨c, hi⟩⟩
  | adopt k =>
    dsimp only [CheckedCall.advance, IntakeTables.adoptIntake]
    obtain ⟨x, hx, hsource, hreference⟩ := h.adopting i c k hi
    split
    · exact h.setEnded i _
    · -- the run has no item of the intake yet
      next hnone =>
      simp only [List.any_eq_true, Bool.and_eq_true, beq_iff_eq, not_exists, not_and] at hnone
      have hinsert := @insert r sources s i h hk
        (.ok ⟨k, s.tables.documentOf k, .duplicateSource⟩) [] ⟨c.run, k, .duplicateSource⟩
      simp only [List.append_nil] at hinsert
      refine hinsert h.keys (fun a ha hrun => hnone a ha hrun) (fun hrun => ?_)
        fun houtcome => by cases houtcome
      refine ⟨x, hx, ?_⟩
      rw [hsource, hreference]
      exact h.calls i c _ hi hrun

/-- **Every step of the ingestions.** -/
theorem step (h : IntakeKeyed r sources s) (hk : IntakeKept False s) (hc : Creators s)
    (x : IntakeStep)
    (hx : ∀ call c, x = .start call → call.check = .ok c → c.run = r →
      sources c.source c.reference) : IntakeKeyed r sources (s.step x) := by
  have happend : ∀ p : IngestProcess, (∀ c phase, p = .running c phase →
      phase = .findIntake ∧ (c.run = r → sources c.source c.reference)) →
      IntakeKeyed r sources { s with processes := s.processes ++ [p] } := by
    intro p hp
    refine h.of_rows rfl rfl (fun j c k hj => ?_) fun j c phase hj hrun => ?_
    · rcases Rows.append_cases hj with hj | ⟨-, hj⟩
      · exact h.adopting j c k hj
      · cases (hp c _ hj.symm).1
    · rcases Rows.append_cases hj with hj | ⟨-, hj⟩
      · exact h.calls j c phase hj hrun
      · exact (hp c phase hj.symm).2 hrun
  cases x with
  | start call =>
    simp only [IntakeState.step]
    split
    · exact happend _ fun c phase heq => by cases heq
    · next c hcheck =>
      refine happend _ fun c' phase heq => ?_
      cases heq
      exact ⟨rfl, hx call c rfl hcheck⟩
  | advance i =>
    simp only [IntakeState.step]
    split
    · next c phase hi => exact h.advance hk hc hi
    · exact h
  | interrupt i =>
    simp only [IntakeState.step]
    split
    · exact h.setEnded i _
    · exact h

theorem initial : IntakeKeyed r sources {} where
  keys := nofun
  items := .nil
  adopting := nofun
  calls := nofun
  own := nofun
  fresh := .nil

end IntakeKeyed

end Keys

section Passes

variable {r : RunId} {listing : List InboxAttachment} {settings : Settings} {s : InboxRun}

/-- The sources of the calls of the run. -/
def InListing (listing : List InboxAttachment) (source : DocumentSource) (reference : String) :
    Prop :=
  source = .simulatedInbox ∧ ∃ a ∈ listing, strip a.sourceReference = reference

/-- What holds of a pass: the attachment of the call in progress has not failed yet. -/
structure InboxPass.Kept (listing : List InboxAttachment) (p : InboxPass) : Prop where
  nodup : p.failed.Nodup
  taken : p.position ≤ listing.length
  failed : ∀ j ∈ p.failed, j < p.position
  calling : p.call.isSome = true → 0 < p.position ∧ ∀ j ∈ p.failed, j < p.position - 1

/-- **What holds of the passes and the tables.** -/
structure PassesKept (r : RunId) (listing : List InboxAttachment) (s : InboxRun) : Prop where
  kept : IntakeKept False s.intake
  creators : Creators s.intake
  keyed : IntakeKeyed r (InListing listing) s.intake
  nodup : s.counted.Nodup
  counted : ∀ j ∈ s.counted, j < listing.length
  counter : s.run.ingestionFailures = s.counted.length
  pass : ∀ p, s.pass = some p → p.Kept listing

/-- The start of a delivery keeps the counter. -/
theorem startSc04_ingestionFailures {run run' : AutomationRun} {taskId : SuppliedTaskId}
    {resumeInterrupted : Bool} {now : ℕ}
    (h : (run.startSc04 taskId resumeInterrupted settings now).saved? = some run') :
    run'.ingestionFailures = run.ingestionFailures := by
  unfold AutomationRun.startSc04 AutomationRun.bindDelivery at h
  split at h
  · cases h
  · next bound hbound =>
    have hmetadata : bound.metadata = run.metadata := by
      split at hbound <;> cases hbound
      rfl
    dsimp only at h
    split_ifs at h <;> cases h <;>
      simp [AutomationRun.ingestionFailures, AutomationRun.withPublication,
        AutomationRun.markRunning, RunMetadata.withReconciliationEvent, hmetadata]

theorem recompute_ingestionFailures (run : AutomationRun) (counts : SC04Counts)
    (expectedTaskId : Option TaskId) (preserve : Bool) (now : ℕ) :
    (run.recompute counts expectedTaskId preserve now).ingestionFailures =
      run.ingestionFailures := by
  unfold AutomationRun.recompute
  split
  · rfl
  · rfl

namespace PassesKept

/-- A step that leaves the tables and the pass. -/
theorem of_row (h : PassesKept r listing s) {run : AutomationRun}
    (hrun : run.ingestionFailures = s.run.ingestionFailures) :
    PassesKept r listing { s with run } :=
  ⟨h.kept, h.creators, h.keyed, h.nodup, h.counted, hrun.trans h.counter, h.pass⟩

/-- A step of the ingestions. -/
theorem of_intake (h : PassesKept r listing s) (x : IntakeStep)
    (hx : ∀ call c, x = .start call → call.check = .ok c → c.run = r →
      InListing listing c.source c.reference) :
    PassesKept r listing { s with intake := s.intake.step x } :=
  ⟨h.kept.step x nofun, h.creators.step h.kept x, h.keyed.step h.kept h.creators x hx, h.nodup,
    h.counted, h.counter, h.pass⟩

/-- A pass starts, goes on, or ends. -/
theorem of_pass (h : PassesKept r listing s) {pass : Option InboxPass}
    (hpass : ∀ p, pass = some p → p.Kept listing) : PassesKept r listing { s with pass } :=
  ⟨h.kept, h.creators, h.keyed, h.nodup, h.counted, h.counter, hpass⟩

theorem start (h : PassesKept r listing s) (taskId : SuppliedTaskId) (resumeInterrupted : Bool)
    (now : ℕ) : PassesKept r listing (s.start settings taskId resumeInterrupted now) := by
  have hfresh : ∀ run : AutomationRun, (InboxPass.mk run 0 none [] false).Kept listing :=
    fun run => ⟨.nil, Nat.zero_le _, nofun, nofun⟩
  have hsaved := fun run' => @startSc04_ingestionFailures settings s.run run' taskId
    resumeInterrupted now
  unfold InboxRun.start
  split
  · next run hpass hstart =>
    rw [hstart] at hsaved
    exact h.of_row (hsaved run rfl)
  · next run hpass hstart =>
    rw [hstart] at hsaved
    exact (h.of_row (hsaved run rfl)).of_pass fun p hp => by cases hp; exact hfresh run
  · next run hpass hstart =>
    rw [hstart] at hsaved
    exact (h.of_row (hsaved run rfl)).of_pass fun p hp => by cases hp; exact hfresh run
  · exact h

/-- The failed attachments of a pass come in the order of the listing. -/
theorem nodup_snoc {failed : List ℕ} {i : ℕ} (h : failed.Nodup) (hlt : ∀ j ∈ failed, j < i) :
    (failed ++ [i]).Nodup := by
  rw [List.nodup_append]
  refine ⟨h, List.nodup_singleton _, fun j hj k hk heq => ?_⟩
  obtain rfl := List.mem_singleton.1 hk
  exact absurd (hlt j hj) (by omega)

theorem lt_of_mem_snoc {failed : List ℕ} {i n : ℕ} (h : ∀ j ∈ failed, j < n) (hi : i < n) :
    ∀ j ∈ failed ++ [i], j < n := by
  intro j hj
  rcases List.mem_append.1 hj with hold | hnew
  · exact h j hold
  · rw [List.mem_singleton.1 hnew]
    exact hi

theorem next (h : PassesKept r listing s) : PassesKept r listing (s.next r listing) := by
  unfold InboxRun.next
  split
  · exact h
  · next p hp =>
    have hkept := h.pass p hp
    split
    · exact h
    · next hcall =>
      simp only [Bool.not_eq_true, Option.isSome_eq_false_iff, Option.isNone_iff_eq_none] at hcall
      split
      · exact h
      · next a ha =>
        have hlt := (List.getElem?_eq_some_iff.1 ha).1
        split
        · -- an attachment that is refused before its ingestion
          refine h.of_pass fun q hq => ?_
          cases hq
          exact ⟨nodup_snoc hkept.nodup hkept.failed, hlt,
            lt_of_mem_snoc (fun j hj => Nat.lt_succ_of_lt (hkept.failed j hj)) (Nat.lt_succ_self _),
            by simp [hcall]⟩
        · next validated hvalidated =>
          have hstart := h.of_intake (.start (a.call r validated)) fun call c hstart hcheck _ => by
            cases hstart
            unfold IngestCall.check at hcheck
            split at hcheck
            · cases hcheck
            · cases hcheck
              exact ⟨rfl, a, List.mem_of_getElem? ha, rfl⟩
          refine hstart.of_pass fun q hq => ?_
          cases hq
          exact ⟨hkept.nodup, hlt, fun j hj => Nat.lt_succ_of_lt (hkept.failed j hj),
            fun _ => ⟨Nat.succ_pos _, fun j hj => by simpa using hkept.failed j hj⟩⟩

theorem settle (h : PassesKept r listing s) : PassesKept r listing s.settle := by
  unfold InboxRun.settle
  split
  · exact h
  · next p hp =>
    have hkept := h.pass p hp
    split
    · refine h.of_pass fun q hq => ?_
      cases hq
      exact ⟨hkept.nodup, hkept.taken, hkept.failed, nofun⟩
    · next heq =>
      have hcall : p.call.isSome = true := by
        cases hcall : p.call with
        | none => rw [hcall] at heq; cases heq
        | some i => rfl
      obtain ⟨hpos, hlast⟩ := hkept.calling hcall
      refine h.of_pass fun q hq => ?_
      cases hq
      -- the attachment that was last taken has failed
      exact ⟨nodup_snoc hkept.nodup hlast, hkept.taken,
        lt_of_mem_snoc hkept.failed (Nat.sub_lt hpos Nat.one_pos), nofun⟩
    · exact h

theorem record (h : PassesKept r listing s) : PassesKept r listing (s.record listing) := by
  unfold InboxRun.record
  split
  · exact h
  · next p hp =>
    have hkept := h.pass p hp
    have hlisted : ∀ q, some { p with listed := true } = some q → q.Kept listing := by
      intro q hq
      cases hq
      exact ⟨hkept.nodup, hkept.taken, hkept.failed, hkept.calling⟩
    split
    · exact h
    · split
      · exact ⟨h.kept, h.creators, h.keyed, hkept.nodup,
          fun j hj => Nat.lt_of_lt_of_le (hkept.failed j hj) hkept.taken, rfl, hlisted⟩
      · exact h.of_pass hlisted

/-- **Every step.** -/
theorem step (h : PassesKept r listing s) (x : InboxStep) :
    PassesKept r listing (s.step r listing settings x) := by
  cases x with
  | start taskId resumeInterrupted now =>
    simp only [InboxRun.step]
    exact h.start taskId resumeInterrupted now
  | next =>
    simp only [InboxRun.step]
    exact h.next
  | settle =>
    simp only [InboxRun.step]
    exact h.settle
  | record =>
    simp only [InboxRun.step]
    exact h.record
  | stop =>
    simp only [InboxRun.step]
    exact h.of_pass fun p hp => by cases hp
  | intake x =>
    cases x with
    | start call =>
      simp only [InboxRun.step]
      split
      · exact h
      · next hne =>
        refine h.of_intake _ fun call' c heq hcheck hrun => ?_
        cases heq
        exact absurd ((check_run hcheck).symm.trans hrun) hne
    | advance i =>
      simp only [InboxRun.step]
      exact h.of_intake _ nofun
    | interrupt i =>
      simp only [InboxRun.step]
      exact h.of_intake _ nofun
  | status d status =>
    simp only [InboxRun.step]
    exact ⟨h.kept, h.creators, h.keyed, h.nodup, h.counted, h.counter, h.pass⟩
  | write run =>
    simp only [InboxRun.step]
    split
    · next heq => exact h.of_row (by simp [AutomationRun.ingestionFailures, heq])
    · exact h
  | recompute expectedTaskId preserve now =>
    simp only [InboxRun.step]
    exact h.of_row (recompute_ingestionFailures _ _ _ _ _)

theorem queued (trigger : RunTrigger) (fresh : TaskId) (now : ℕ) :
    PassesKept r listing (InboxRun.queued trigger fresh now) := by
  have hnobody : ∀ i d, ¬ IntakeState.Creates {} i d := by
    rintro i d ⟨c, hc⟩
    cases hc
  refine ⟨IntakeKept.initial, ⟨?_, ?_⟩, IntakeKeyed.initial, .nil, ?_, rfl, ?_⟩
  · intro i j d hi _
    exact absurd hi (hnobody i d)
  · intro i d hi _
    exact hnobody i d hi
  · intro j hj
    cases hj
  · intro p hp
    cases hp

theorem after (h : PassesKept r listing s) (xs : List InboxStep) :
    PassesKept r listing (s.after r listing settings xs) := by
  induction xs generalizing s with
  | nil => exact h
  | cons x xs ih => exact ih (h.step x)

end PassesKept

end Passes

section Counts

variable {r : RunId} {listing : List InboxAttachment} {settings : Settings} {s : InboxRun}

/-- A document has one of the five states. -/
theorem countP_statuses (statuses : DocumentId → DocumentStatus) (ds : List DocumentId) :
    (ds.countP fun d => statuses d == .routed) + (ds.countP fun d => statuses d == .awaitingReview) +
      (ds.countP fun d => statuses d == .queued || statuses d == .processing) +
      (ds.countP fun d => statuses d == .failed) = ds.length := by
  induction ds with
  | nil => rfl
  | cons d ds ih =>
    simp only [List.countP_cons, List.length_cons]
    cases statuses d <;> simp <;> omega

theorem countP_outcomes (r : RunId) (items : List DocumentRunItem) :
    (items.countP fun item => item.run == r && item.outcome != .new) +
      (items.countP fun item => item.run == r && item.outcome == .new) =
    items.countP (·.run == r) := by
  induction items with
  | nil => rfl
  | cons item items ih =>
    simp only [List.countP_cons]
    cases item.run == r <;> cases item.outcome <;> simp <;> omega

/-- Every new item has a document of its own. -/
theorem IntakeKeyed.newDocuments {sources : DocumentSource → String → Prop} {s : IntakeState}
    (h : IntakeKeyed r sources s) :
    (s.tables.documentsOf r .new).length =
      s.tables.items.countP fun item => item.run == r && item.outcome == .new := by
  have hnodup : ((s.tables.items.filter fun item => item.run == r && item.outcome == .new).map
      fun item => s.tables.documentOf item.intake).Nodup := by
    rw [List.Nodup, List.pairwise_map]
    refine (h.fresh.filter _).imp_of_mem fun {a b} ha hb hab => ?_
    simp only [List.mem_filter, Bool.and_eq_true, beq_iff_eq] at ha hb
    exact hab ha.2.2 hb.2.2
  rw [IntakeTables.documentsOf, List.Nodup.dedup hnodup, List.length_map, List.countP_eq_length_filter]

/-- What is received became something. -/
theorem counts_balance {sources : DocumentSource → String → Prop} {s : IntakeState}
    (h : IntakeKeyed r sources s) (statuses : DocumentId → DocumentStatus) :
    (s.tables.counts statuses r).items =
      (s.tables.counts statuses r).routed + (s.tables.counts statuses r).awaitingReview +
        (s.tables.counts statuses r).inProgress + (s.tables.counts statuses r).newFailed +
        (s.tables.counts statuses r).duplicates := by
  have hstatuses := countP_statuses statuses (s.tables.documentsOf r .new)
  have houtcomes := countP_outcomes r s.tables.items
  have hnew := h.newDocuments
  simp only [IntakeTables.counts]
  omega

open Classical in
/-- The attachments that a pass has ingested. -/
noncomputable def ingestedSet (r : RunId) (listing : List InboxAttachment) (s : InboxRun) :
    Finset ℕ :=
  (Finset.range listing.length).filter fun j => s.Ingested r listing j

theorem mem_ingestedSet {j : ℕ} : j ∈ ingestedSet r listing s ↔ s.Ingested r listing j := by
  simp only [ingestedSet, Finset.mem_filter, Finset.mem_range, and_iff_right_iff_imp]
  rintro ⟨a, ha, -⟩
  exact (List.getElem?_eq_some_iff.1 ha).1

/-- The reference of an attachment, as the intake keeps it. -/
def referenceAt (listing : List InboxAttachment) (j : ℕ) : Option String :=
  listing[j]?.map fun a => strip a.sourceReference

def itemReference (s : IntakeTables) (item : DocumentRunItem) : Option String :=
  s.intakes[item.intake]?.map (·.sourceReference)

theorem referenceAt_injective (hrefs : (listing.map fun a => strip a.sourceReference).Nodup)
    {j k : ℕ} (hj : j < listing.length) (h : referenceAt listing j = referenceAt listing k) :
    j = k := by
  refine (List.getElem?_inj (by simpa using hj) hrefs).1 ?_
  simpa [referenceAt, List.getElem?_map] using h

/-- **The items are the attachments that were ingested.** -/
theorem PassesKept.items_count (h : PassesKept r listing s)
    (hrefs : (listing.map fun a => strip a.sourceReference).Nodup) :
    (s.intake.tables.counts s.statuses r).items = (ingestedSet r listing s).card := by
  set items := s.intake.tables.items.filter (·.run == r) with hitems
  have hmem : ∀ item, item ∈ items ↔ item ∈ s.intake.tables.items ∧ item.run = r := by
    intro item
    simp [hitems, List.mem_filter]
  have hnodup : (items.map (itemReference s.intake.tables)).Nodup := by
    rw [List.Nodup, List.pairwise_map]
    refine (h.keyed.items.filter _).imp_of_mem fun {a b} ha hb hab heq => ?_
    obtain ⟨ha, harun⟩ := (hmem a).1 ha
    obtain ⟨hb, hbrun⟩ := (hmem b).1 hb
    obtain ⟨x, hx, hxsource, -⟩ := h.keyed.own a ha harun
    obtain ⟨y, hy, hysource, -⟩ := h.keyed.own b hb hbrun
    simp only [itemReference, hx, hy, Option.map_some, Option.some.injEq] at heq
    exact hab (harun.trans hbrun.symm)
      (h.keyed.keys a.intake b.intake x y hx hy (hxsource.trans hysource.symm) heq)
  have hset : (items.map (itemReference s.intake.tables)).toFinset =
      (ingestedSet r listing s).image (referenceAt listing) := by
    ext reference
    simp only [List.mem_toFinset, List.mem_map, Finset.mem_image, mem_ingestedSet]
    constructor
    · rintro ⟨item, hitem, rfl⟩
      obtain ⟨hitem, hrun⟩ := (hmem item).1 hitem
      obtain ⟨x, hx, hsource, a, ha, hreference⟩ := h.keyed.own item hitem hrun
      obtain ⟨j, hj⟩ := List.mem_iff_getElem?.1 ha
      exact ⟨j, ⟨a, hj, item, hitem, hrun, x, hx, hsource, hreference.symm⟩, by
        simp [referenceAt, itemReference, hj, hx, hreference]⟩
    · rintro ⟨j, ⟨a, hj, item, hitem, hrun, x, hx, -, hreference⟩, rfl⟩
      exact ⟨item, (hmem item).2 ⟨hitem, hrun⟩, by
        simp [referenceAt, itemReference, hj, hx, hreference]⟩
  have hinjective : Set.InjOn (referenceAt listing) (ingestedSet r listing s) := by
    intro j hj k _ heq
    obtain ⟨a, ha, -⟩ := mem_ingestedSet.1 hj
    exact referenceAt_injective hrefs (List.getElem?_eq_some_iff.1 ha).1 heq
  calc (s.intake.tables.counts s.statuses r).items
      = items.length := List.countP_eq_length_filter
    _ = (items.map (itemReference s.intake.tables)).length := (List.length_map _).symm
    _ = (items.map (itemReference s.intake.tables)).toFinset.card :=
        (List.toFinset_card_of_nodup hnodup).symm
    _ = ((ingestedSet r listing s).image (referenceAt listing)).card := by rw [hset]
    _ = (ingestedSet r listing s).card := Finset.card_image_of_injOn hinjective

/-- Two parts of the listing add up to it, without a common attachment, when each is the rest of
the other. -/
theorem parts_iff (n : ℕ) (ingested counted : Finset ℕ) (hingested : ingested ⊆ Finset.range n)
    (hcounted : counted ⊆ Finset.range n) :
    (ingested.card + counted.card = n ∧ ∀ j ∈ counted, j ∉ ingested) ↔
      ∀ j < n, j ∈ counted ↔ j ∉ ingested := by
  constructor
  · rintro ⟨hcard, hdisjoint⟩ j hj
    have hunion : ingested ∪ counted = Finset.range n := by
      refine Finset.eq_of_subset_of_card_le (Finset.union_subset hingested hcounted) ?_
      rw [Finset.card_union_of_disjoint
        (Finset.disjoint_right.2 hdisjoint), hcard, Finset.card_range]
    refine ⟨hdisjoint j, fun hnot => ?_⟩
    have hmem : j ∈ ingested ∪ counted := hunion ▸ Finset.mem_range.2 hj
    exact (Finset.mem_union.1 hmem).resolve_left hnot
  · intro h
    have hdisjoint : ∀ j ∈ counted, j ∉ ingested :=
      fun j hj => (h j (Finset.mem_range.1 (hcounted hj))).1 hj
    refine ⟨?_, hdisjoint⟩
    have hunion : ingested ∪ counted = Finset.range n := by
      refine Finset.Subset.antisymm (Finset.union_subset hingested hcounted) fun j hj => ?_
      by_cases hin : j ∈ ingested
      · exact Finset.mem_union_left _ hin
      · exact Finset.mem_union_right _ ((h j (Finset.mem_range.1 hj)).2 hin)
    rw [← Finset.card_union_of_disjoint (Finset.disjoint_right.2 hdisjoint), hunion,
      Finset.card_range]

/-- The accounting of a recomputation, in every state of the passes. -/
theorem PassesKept.accounted_recompute (h : PassesKept r listing s)
    (hrefs : (listing.map fun a => strip a.sourceReference).Nodup)
    {expectedTaskId : Option TaskId} (preserve : Bool) (now : ℕ)
    (hwrites : expectedTaskId = none ∨
      (s.run.status = .running ∧ s.run.taskId = expectedTaskId)) :
    (s.step r listing settings (.recompute expectedTaskId preserve now)).Accounted r listing ↔
      (s.step r listing settings (.recompute expectedTaskId preserve now)).FailedStayFailed r
        listing := by
  have hguard : (expectedTaskId.isSome &&
      (s.run.status != .running || s.run.taskId != expectedTaskId)) = false := by
    rcases hwrites with rfl | ⟨hrunning, htask⟩
    · rfl
    · simp [hrunning, htask]
  have hresult : (s.step r listing settings
      (.recompute expectedTaskId preserve now)).run.metadata.result =
        some (s.run.recomputedResult (s.intake.tables.counts s.statuses r)) := by
    simp [InboxRun.step, AutomationRun.recompute, hguard]
  -- the items are the attachments that were ingested, the counter those of the failures
  have hbalance := counts_balance h.keyed s.statuses
  have hcount := h.items_count hrefs
  have hcounter := h.counter
  have hcard : s.counted.toFinset.card = s.counted.length := List.toFinset_card_of_nodup h.nodup
  have hparts := parts_iff listing.length (ingestedSet r listing s) s.counted.toFinset
    (fun j hj => by
      obtain ⟨a, ha, -⟩ := mem_ingestedSet.1 hj
      exact Finset.mem_range.2 (List.getElem?_eq_some_iff.1 ha).1)
    (fun j hj => Finset.mem_range.2 (h.counted j (List.mem_toFinset.1 hj)))
  simp only [mem_ingestedSet, List.mem_toFinset, hcard] at hparts
  show _ ↔ ∀ j < listing.length, j ∈ s.counted ↔ ¬ s.Ingested r listing j
  rw [← hparts]
  constructor
  · rintro ⟨result, hsome, hreceived, hdisjoint, -⟩
    rw [hresult] at hsome
    obtain rfl := Option.some.inj hsome
    refine ⟨?_, hdisjoint⟩
    rw [← hreceived, ← hcount, ← hcounter]
    rfl
  · rintro ⟨hsum, hdisjoint⟩
    refine ⟨_, hresult, ?_, hdisjoint, ?_⟩
    · rw [← hsum, ← hcount, ← hcounter]
      rfl
    · show _ + (s.intake.tables.counts s.statuses r).duplicateFailed = _ + _ +
        (s.intake.tables.counts s.statuses r).inProgress + _ + _
      simp only [AutomationRun.recomputedResult]
      omega

end Counts

/-- **The accounting of several passes.** Whatever passes a run makes of the listing, with whatever
failures, other ingestions and recomputations in between, its result accounts for the attachments
exactly when the failures that are counted, those of the last pass that had some, are the
attachments that no pass has ingested. -/
theorem accounted_iff (r : RunId) (listing : List InboxAttachment) (settings : Settings)
    (trigger : RunTrigger) (fresh : TaskId) (createdAt : ℕ)
    (hrefs : (listing.map fun a => strip a.sourceReference).Nodup) (xs : List InboxStep)
    {expectedTaskId : Option TaskId} (preserve : Bool) (now : ℕ)
    (hwrites : expectedTaskId = none ∨
      (((InboxRun.queued trigger fresh createdAt).after r listing settings xs).run.status = .running ∧
        ((InboxRun.queued trigger fresh createdAt).after r listing settings xs).run.taskId =
          expectedTaskId)) :
    ((InboxRun.queued trigger fresh createdAt).after r listing settings
        (xs ++ [.recompute expectedTaskId preserve now])).Accounted r listing ↔
      ((InboxRun.queued trigger fresh createdAt).after r listing settings
        (xs ++ [.recompute expectedTaskId preserve now])).FailedStayFailed r listing := by
  have hkept : PassesKept r listing
      ((InboxRun.queued trigger fresh createdAt).after r listing settings xs) :=
    (PassesKept.queued trigger fresh createdAt).after xs
  have hrecompute := @PassesKept.accounted_recompute r listing settings _ hkept hrefs
    expectedTaskId preserve now hwrites
  rw [InboxRun.after, List.foldl_append]
  exact hrecompute

/-- An inbox with one attachment. -/
def oneAttachment : List InboxAttachment :=
  [{ sourceReference := "INBOX-1"
     validated := some { filename := "nota.xml", mediaType := "application/xml",
                         extension := ".xml", content := [], sha256 := "a" } }]

/-- A pass over it in which no call raises. -/
def quietPass (call : ℕ) : List InboxStep :=
  [.next, .intake (.advance call), .intake (.advance call), .intake (.advance call),
    .intake (.advance call), .intake (.advance call), .settle, .record]

/-- An inbox with two attachments. -/
def twoAttachments : List InboxAttachment :=
  oneAttachment ++ [{ sourceReference := "INBOX-2"
                      validated := some { filename := "guia.xml", mediaType := "application/xml",
                                          extension := ".xml", content := [], sha256 := "b" } }]

/-- Both passes fail on the second attachment, and the first pass is interrupted. -/
def failedTwice : List InboxStep :=
  [.start (.uuid 7) false 1, .next, .intake (.advance 0), .intake (.advance 0), .intake (.advance 0),
    .intake (.advance 0), .intake (.advance 0), .settle, .next, .intake (.interrupt 1), .settle,
    .record, .stop, .start (.uuid 7) true 2, .next, .intake (.advance 2), .intake (.advance 2),
    .settle, .next, .intake (.interrupt 3), .settle, .record]

/-- One attachment is ingested, and the other has failed. -/
theorem accounted_iff_failedTwice :
    ((InboxRun.queued .manual 7 0).after 0 twoAttachments {}
      (failedTwice ++ [.recompute (some 7) false 3])).Accounted 0 twoAttachments := by
  refine (accounted_iff 0 twoAttachments {} .manual 7 0 (by decide +kernel) failedTwice false 3
    (.inr ⟨by decide +kernel, by decide +kernel⟩)).2 fun j hj => ?_
  have hcounted : ((InboxRun.queued .manual 7 0).after 0 twoAttachments {}
      (failedTwice ++ [.recompute (some 7) false 3])).counted = [1] := by decide +kernel
  rw [hcounted, List.mem_singleton]
  obtain rfl | rfl : j = 0 ∨ j = 1 := by
    have hj2 : j < 2 := hj
    omega
  · refine iff_of_false Nat.zero_ne_one fun hnot => hnot ?_
    exact ⟨_, rfl, ⟨0, 0, .new⟩, by decide +kernel, rfl, _, rfl, rfl, by decide +kernel⟩
  · refine iff_of_true rfl ?_
    rintro ⟨a, ha, item, -, -, intake, hintake, -, href⟩
    obtain rfl := Option.some.inj ha
    have hother : ∀ x ∈ ((InboxRun.queued .manual 7 0).after 0 twoAttachments {}
        (failedTwice ++ [.recompute (some 7) false 3])).intake.tables.intakes,
        x.sourceReference ≠ strip "INBOX-2" := by decide +kernel
    exact hother intake (List.mem_of_getElem? hintake) href

/-- The first pass fails on the attachment and is interrupted before its end; the second ingests
it, and keeps the counter. -/
def retriedInbox : List InboxStep :=
  [.start (.uuid 7) false 1, .next, .intake (.interrupt 0), .settle, .record, .stop,
    .start (.uuid 7) true 2] ++ quietPass 1 ++ [.recompute (some 7) false 3]

/-- One attachment is received twice. -/
theorem failure_outlives_retry :
    ¬ ((InboxRun.queued .manual 7 0).after 0 oneAttachment {} retriedInbox).Accounted 0
      oneAttachment := by
  rintro ⟨result, hresult, hreceived, -⟩
  have hcounted : ((InboxRun.queued .manual 7 0).after 0 oneAttachment {}
      retriedInbox).run.metadata.result = some ⟨2, 0, 0, 0, 1⟩ := by decide +kernel
  rw [hcounted] at hresult
  obtain rfl := Option.some.inj hresult
  cases hreceived

end SheepContabil
