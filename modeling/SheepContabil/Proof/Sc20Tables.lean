import SheepContabil.Proof.Sc20Moves
import Mathlib.Data.List.Nodup
import Mathlib.Data.List.Range

/-!
# SC-20: communications and attempts

* `prepareNew_some`, `prepareRetry_some`, `finalize_ok`: what the three
  transactions that touch the tables write.
* `TablesKept`: one communication for each key; the attempts of a communication are
  numbered from 1, all but the last have failed, and the last decides its status.
-/

namespace SheepContabil

open Conc

/-- The attempts of a communication with this status: numbered from 1, and only the last one
may be other than failed. -/
structure Numbered (as : List CommunicationAttempt) (status : CommunicationStatus) : Prop where
  sequences : as.map (·.sequence) = List.range' 1 as.length
  last : ∃ before a, as = before ++ [a] ∧ (∀ x ∈ before, x.status = .failed) ∧ a.status = status

/-- **The invariant of the two tables.** -/
structure TablesKept (s : SC20State) : Prop where
  attemptIds : s.attempts.map (·.id) = List.range s.attempts.length
  communicationIds : s.communications.map (·.id) = List.range s.communications.length
  keys : (s.communications.map (·.key)).Nodup
  owned : ∀ a ∈ s.attempts, a.communication < s.communications.length
  numbered : ∀ c ∈ s.communications, Numbered (s.attemptsOf c.id) c.status
  unfinished : ∀ a ∈ s.attempts, a.status = .pending → a.finishedAt = none

/-- The attempt a reservation inserts. -/
def SC20State.newAttempt (s : SC20State) (c : CommunicationId) (recipient : String) (r : RunId) :
    CommunicationAttempt :=
  { id := s.attempts.length, communication := c, run := r
    sequence := ((s.attemptsOf c).map (·.sequence)).foldr max 0 + 1, recipient := recipient }

/-- What a reservation hands to the worker. -/
structure Prepares (s : SC20State) (c : CommunicationId) (recipient : String) (r : RunId)
    (p : PreparedDelivery) (s' : SC20State) : Prop where
  attempts : s'.attempts = s.attempts ++ [s.newAttempt c recipient r]
  attempt : p.attemptId = s.attempts.length
  communication : p.communicationId = c
  run : p.runId = r
  runs : s'.runs = s.runs
  runCount : s'.runCount = s.runCount
  nextTaskId : s'.nextTaskId = s.nextTaskId
  ignored : s'.ignored = s.ignored
  sends : s'.sends = s.sends
  executors : s'.executors = s.executors
  tokens : s'.tokens = s.tokens

namespace SC20State

variable {s s' : SC20State}

theorem lockRun_ok {r : RunId} {t : Option TaskId} {run : SC20Run} (h : s.lockRun r t = .ok run) :
    s.runs r = some run ∧ run.run.status = .running := by
  unfold lockRun at h
  cases hrun : s.runs r with
  | none => simp [hrun] at h
  | some run' =>
    simp only [hrun] at h
    split at h
    · next hlock =>
      obtain rfl := Except.ok.inj h
      simp only [AutomationRun.isLockedBy, Bool.and_eq_true, beq_iff_eq] at hlock
      exact ⟨rfl, hlock.1⟩
    · cases h

/-- **`_prepare_new_delivery`**, when it prepares one: the key is new. -/
theorem prepareNew_some {c : CertificateId} {r : RunId} {t : Option TaskId} {policy : SC20Policy}
    {p : PreparedDelivery} (h : s.prepareNew c r t policy = .ok (some p, s')) :
    ∃ run new, s.lockRun r t = .ok run ∧ s'.communications = s.communications ++ [new] ∧
      new.id = s.communications.length ∧ new.status = .pending ∧
      (∀ x ∈ s.communications, x.key ≠ new.key) ∧
      Prepares s s.communications.length new.recipient r p s' := by
  unfold prepareNew at h
  obtain ⟨run, hrun, h⟩ := Py.bind_eq_ok.1 h
  split at h
  · cases h
  · next locked hlocked =>
    simp only at h
    split at h
    · cases h
    · next hkey =>
      obtain ⟨hp, rfl⟩ := Prod.mk.inj (Except.ok.inj h)
      obtain rfl := Option.some.inj hp
      refine ⟨run, _, hrun, rfl, rfl, rfl, ?_, ⟨rfl, rfl, rfl, rfl, rfl, rfl, rfl, rfl, rfl, rfl,
        rfl⟩⟩
      intro x hx heq
      apply hkey
      simp only [List.any_eq_true, beq_iff_eq]
      exact ⟨x, hx, heq⟩

/-- **`_prepare_retry_delivery`**, when it prepares one: the communication had failed. -/
theorem prepareRetry_some {c : CommunicationId} {r : RunId} {t : Option TaskId}
    {p : PreparedDelivery} (h : s.prepareRetry c r t = .ok (some p, s')) :
    ∃ run old new, s.lockRun r t = .ok run ∧ s.communication? c = some old ∧ old.status = .failed ∧
      new.id = old.id ∧ new.key = old.key ∧ new.status = .pending ∧
      s'.communications = (s.communications.map fun x => if x.id = c then new else x) ∧
      Prepares s old.id new.recipient r p s' := by
  unfold prepareRetry at h
  obtain ⟨run, hrun, h⟩ := Py.bind_eq_ok.1 h
  split at h
  · cases h
  · next old hold =>
    split at h
    · cases h
    · next certificate hcert =>
      split at h
      · cases h
      · next hfailed =>
        simp only at h
        split at h
        · cases h
        · obtain ⟨hp, rfl⟩ := Prod.mk.inj (Except.ok.inj h)
          obtain rfl := Option.some.inj hp
          simp only [not_or, ne_eq, not_not] at hfailed
          refine ⟨run, old, { old with
            latestRun := r, recipient := certificate.recipientFor old.key.channel
            status := .pending, sentAt := none, lastError := "" }, hrun, hold, hfailed.2.2, rfl, rfl,
            rfl, rfl, ⟨rfl, rfl, rfl, rfl, rfl, rfl, rfl, rfl, rfl, rfl, rfl⟩⟩

/-- What the provider's answer makes of an attempt. -/
def answered (d : DeliveryResult) : CommunicationStatus := if d.delivered then .sent else .failed

/-- **`_finalize_delivery`**: a settled attempt is left alone, a pending one is settled together
with its communication. -/
theorem finalize_ok {p : PreparedDelivery} {d : DeliveryResult} {now : ℕ}
    {res : SC20ExecutionResult} (h : s.finalize p d now = .ok (res, s')) :
    ∃ run a, s.lockRun p.runId p.taskId = .ok run ∧ s.attempt? p.attemptId = some a ∧
      a.run = p.runId ∧ a.communication = p.communicationId ∧
      ((a.status ≠ .pending ∧ s' = s) ∨
        (a.status = .pending ∧ ∃ f g,
          s' = (s.updateAttempt p.attemptId f).updateCommunication p.communicationId g ∧
          (∀ x, (f x).id = x.id ∧ (f x).communication = x.communication ∧ (f x).run = x.run ∧
            (f x).sequence = x.sequence ∧ (f x).status = answered d) ∧
          (∀ x, (g x).id = x.id ∧ (g x).key = x.key ∧ (g x).status = answered d))) := by
  unfold finalize at h
  obtain ⟨run, hrun, h⟩ := Py.bind_eq_ok.1 h
  cases ha : s.attempt? p.attemptId with
  | none => simp [ha] at h
  | some a =>
    simp only [ha] at h
    split at h
    · cases h
    · next howner =>
      simp only [not_or, ne_eq, not_not] at howner
      refine ⟨run, a, hrun, rfl, howner.1, howner.2, ?_⟩
      cases hstatus : a.status with
      | sent =>
        simp only [hstatus] at h
        exact .inl ⟨by simp, (Prod.mk.inj (Except.ok.inj h)).2.symm⟩
      | failed =>
        simp only [hstatus] at h
        exact .inl ⟨by simp, (Prod.mk.inj (Except.ok.inj h)).2.symm⟩
      | pending =>
        simp only [hstatus] at h
        split at h
        · cases h
        · split at h
          · cases h
          · refine .inr ⟨rfl, _, _, (Prod.mk.inj (Except.ok.inj h)).2.symm, ?_, ?_⟩
            · intro x; exact ⟨rfl, rfl, rfl, rfl, rfl⟩
            · intro x; exact ⟨rfl, rfl, rfl⟩

/-- The counts a finished send reports add up to one. -/
theorem finalize_count {p : PreparedDelivery} {d : DeliveryResult} {now : ℕ}
    {res : SC20ExecutionResult} (h : s.finalize p d now = .ok (res, s')) :
    res.sent + res.failed + res.deduplicated = 1 := by
  unfold finalize at h
  obtain ⟨run, -, h⟩ := Py.bind_eq_ok.1 h
  split at h
  · cases h
  · split at h
    · cases h
    · split at h
      · obtain ⟨rfl, -⟩ := Prod.mk.inj (Except.ok.inj h); rfl
      · obtain ⟨rfl, -⟩ := Prod.mk.inj (Except.ok.inj h); rfl
      · split at h
        · cases h
        · split at h
          · cases h
          · obtain ⟨rfl, -⟩ := Prod.mk.inj (Except.ok.inj h)
            split <;> rfl

theorem finishRun_ok {r : RunId} {t : Option TaskId} {result : SC20ExecutionResult}
    {policy : SC20Policy} {now : ℕ} (h : s.finishRun r t result policy now = .ok s') :
    ∃ run row, s.lockRun r t = .ok run ∧
      s' = s.setRun r { run with run := row, policy := some policy, result := some result } ∧
      (row.status = .succeeded ∨ row.status = .succeededWithWarnings) ∧
      row.startedAt = run.run.startedAt ∧ row.taskId = run.run.taskId := by
  unfold finishRun at h
  obtain ⟨run, hrun, h⟩ := Py.bind_eq_ok.1 h
  refine ⟨run, _, hrun, (Except.ok.inj h).symm, ?_, rfl, rfl⟩
  by_cases hf : result.failed ≠ 0
  · exact .inr (if_pos hf)
  · exact .inl (if_neg hf)

theorem recordUnhandledFailure_ok {r : RunId} {t : Option TaskId} {exc : String} {now : ℕ}
    (h : s.recordUnhandledFailure r t exc now = .ok s') :
    s' = s ∨ ∃ run row, s.lockRun r t = .ok run ∧ s' = s.setRun r { run with run := row } ∧
      row.status = (if s.hasPendingAttempt r then .partiallyFailed else .failed) ∧
      row.startedAt = run.run.startedAt ∧ row.taskId = run.run.taskId := by
  unfold recordUnhandledFailure at h
  cases hrun : s.runs r with
  | none => simp [hrun] at h
  | some run =>
    simp only [hrun] at h
    split at h
    · exact .inl (Except.ok.inj h).symm
    · next hlock =>
      refine .inr ⟨run, _, ?_, (Except.ok.inj h).symm, rfl, rfl, rfl⟩
      simp only [Bool.not_eq_true', Bool.not_eq_false] at hlock
      simp [lockRun, hrun, hlock]

/-- An ignored delivery leaves a trace and nothing else. -/
theorem recordIgnored_ok {e : IgnoredDelivery} (h : s.recordIgnored e = .ok s') :
    s' = s ∨ s' = { s with ignored := s.ignored ++ [e] } := by
  unfold recordIgnored at h
  split at h
  · exact .inr (Except.ok.inj h).symm
  · split at h
    · exact .inl (Except.ok.inj h).symm
    · cases h

end SC20State

namespace TablesKept

variable {s s' : SC20State}

theorem attempt_eq (h : TablesKept s) {x y : CommunicationAttempt} (hx : x ∈ s.attempts)
    (hy : y ∈ s.attempts) (hid : x.id = y.id) : x = y := by
  have hnodup : (s.attempts.map (·.id)).Nodup := h.attemptIds ▸ List.nodup_range
  exact List.inj_on_of_nodup_map hnodup hx hy hid

theorem communication_eq (h : TablesKept s) {x y : CertificateCommunication}
    (hx : x ∈ s.communications) (hy : y ∈ s.communications) (hid : x.id = y.id) : x = y := by
  have hnodup : (s.communications.map (·.id)).Nodup := h.communicationIds ▸ List.nodup_range
  exact List.inj_on_of_nodup_map hnodup hx hy hid

theorem id_lt (h : TablesKept s) {x : CommunicationAttempt} (hx : x ∈ s.attempts) :
    x.id < s.attempts.length := by
  have hmem : x.id ∈ s.attempts.map (·.id) := List.mem_map_of_mem (f := (·.id)) hx
  rw [h.attemptIds] at hmem
  exact List.mem_range.1 hmem

theorem communication_lt (h : TablesKept s) {x : CertificateCommunication}
    (hx : x ∈ s.communications) : x.id < s.communications.length := by
  have hmem : x.id ∈ s.communications.map (·.id) := List.mem_map_of_mem (f := (·.id)) hx
  rw [h.communicationIds] at hmem
  exact List.mem_range.1 hmem

theorem of_eq (h : TablesKept s) (ha : s'.attempts = s.attempts)
    (hc : s'.communications = s.communications) : TablesKept s' := by
  obtain ⟨h1, h2, h3, h4, h5, h6⟩ := h
  refine ⟨?_, ?_, ?_, ?_, ?_, ?_⟩ <;> simp only [ha, hc, SC20State.attemptsOf] at * <;> assumption

end TablesKept

theorem attempt?_some {s : SC20State} {i : AttemptId} {a : CommunicationAttempt}
    (h : s.attempt? i = some a) : a ∈ s.attempts ∧ a.id = i :=
  ⟨List.mem_of_find?_eq_some h, by simpa using List.find?_some h⟩

theorem communication?_some {s : SC20State} {i : CommunicationId} {c : CertificateCommunication}
    (h : s.communication? i = some c) : c ∈ s.communications ∧ c.id = i :=
  ⟨List.mem_of_find?_eq_some h, by simpa using List.find?_some h⟩

theorem foldr_max_numbered (n : ℕ) :
    ∀ a, 1 ≤ a → (List.range' a n).foldr max 0 + 1 = if n = 0 then 1 else a + n := by
  induction n with
  | zero => intro a _; rfl
  | succ n ih =>
    intro a ha
    have hrec := ih (a + 1) (by omega)
    rw [List.range'_succ, List.foldr_cons, if_neg (Nat.succ_ne_zero n)]
    split at hrec <;> omega

/-- One more attempt, pending, after attempts that have all failed. -/
theorem Numbered.snoc {as : List CommunicationAttempt} (hseq : as.map (·.sequence) =
    List.range' 1 as.length) (hfailed : ∀ x ∈ as, x.status = .failed) {a : CommunicationAttempt}
    (ha : a.sequence = (as.map (·.sequence)).foldr max 0 + 1) (hpending : a.status = .pending) :
    Numbered (as ++ [a]) .pending := by
  refine ⟨?_, as, a, rfl, hfailed, hpending⟩
  rw [hseq, foldr_max_numbered _ 1 (by omega)] at ha
  rw [List.map_append, hseq, List.length_append, List.length_singleton, List.range'_concat]
  simp only [List.map_cons, List.map_nil, ha, Nat.one_mul]
  split
  · next hnil => rw [hnil]
  · rfl

/-- The failed communication has only failed attempts. -/
theorem Numbered.failed {as : List CommunicationAttempt} (h : Numbered as .failed) :
    ∀ x ∈ as, x.status = .failed := by
  obtain ⟨before, a, rfl, hbefore, ha⟩ := h.last
  intro x hx
  rcases List.mem_append.1 hx with hx | hx
  · exact hbefore x hx
  · rw [List.mem_singleton.1 hx]; exact ha

/-- An attempt that has not failed is the last one and gives its communication its status. -/
theorem Numbered.eq_last {as : List CommunicationAttempt} {st : CommunicationStatus}
    (h : Numbered as st) {a : CommunicationAttempt} (ha : a ∈ as) (hne : a.status ≠ .failed) :
    ∃ before, as = before ++ [a] ∧ (∀ x ∈ before, x.status = .failed) ∧ a.status = st := by
  obtain ⟨before, b, rfl, hbefore, hb⟩ := h.last
  rcases List.mem_append.1 ha with hmem | hmem
  · exact absurd (hbefore a hmem) hne
  · rw [List.mem_singleton.1 hmem]
    exact ⟨before, rfl, hbefore, hb⟩

namespace TablesKept

variable {s s' : SC20State}

/-- The attempts of a communication after an insertion. -/
theorem attemptsOf_append (as : List CommunicationAttempt) (a : CommunicationAttempt)
    (c : CommunicationId) :
    (as ++ [a]).filter (fun x => x.communication == c) =
      as.filter (fun x => x.communication == c) ++ if a.communication = c then [a] else [] := by
  by_cases hc : a.communication = c <;> simp [hc]

section Prepared

variable {c : CommunicationId} {recipient : String} {r : RunId} {p : PreparedDelivery}

/-- The attempts stay numbered by their insertions. -/
theorem attemptIds_prepared (h : TablesKept s) (hprep : Prepares s c recipient r p s') :
    s'.attempts.map (·.id) = List.range s'.attempts.length := by
  rw [hprep.attempts, List.map_append, h.attemptIds, List.length_append, List.length_singleton,
    List.range_succ]
  rfl

theorem owned_prepared (h : TablesKept s) (hprep : Prepares s c recipient r p s')
    (hlen : s.communications.length ≤ s'.communications.length)
    (hc : c < s'.communications.length) :
    ∀ a ∈ s'.attempts, a.communication < s'.communications.length := by
  intro a ha
  rw [hprep.attempts] at ha
  rcases List.mem_append.1 ha with hold | hnew
  · exact Nat.lt_of_lt_of_le (h.owned a hold) hlen
  · rw [List.mem_singleton.1 hnew]
    exact hc

theorem unfinished_prepared (h : TablesKept s) (hprep : Prepares s c recipient r p s') :
    ∀ a ∈ s'.attempts, a.status = .pending → a.finishedAt = none := by
  intro a ha hst
  rw [hprep.attempts] at ha
  rcases List.mem_append.1 ha with hold | hnew
  · exact h.unfinished a hold hst
  · rw [List.mem_singleton.1 hnew]
    rfl

end Prepared

theorem prepareNew (h : TablesKept s) {c : CertificateId} {r : RunId} {t : Option TaskId}
    {policy : SC20Policy} {p : PreparedDelivery}
    (hp : s.prepareNew c r t policy = .ok (some p, s')) : TablesKept s' := by
  obtain ⟨run, new, -, hcomm, hid, hpending, hkey, hprep⟩ := SC20State.prepareNew_some hp
  have hnone : s.attemptsOf s.communications.length = [] := by
    rw [SC20State.attemptsOf, List.filter_eq_nil_iff]
    intro a ha heq
    simp only [beq_iff_eq] at heq
    exact Nat.ne_of_lt (h.owned a ha) heq
  have hlen : s'.communications.length = s.communications.length + 1 := by
    rw [hcomm, List.length_append, List.length_singleton]
  refine ⟨h.attemptIds_prepared hprep, ?_, ?_,
    h.owned_prepared hprep (by omega) (hlen ▸ Nat.lt_succ_self _), ?_, h.unfinished_prepared hprep⟩
  · rw [hcomm, List.map_append, h.communicationIds, List.length_append, List.length_singleton,
      List.range_succ]
    simp [hid]
  · rw [hcomm, List.map_append, List.nodup_append]
    refine ⟨h.keys, by simp, ?_⟩
    intro k hk k' hk' heq
    obtain ⟨x, hx, rfl⟩ := List.mem_map.1 hk
    simp only [List.map_cons, List.map_nil, List.mem_singleton] at hk'
    exact hkey x hx (heq.trans hk')
  · intro x hx
    rw [hcomm] at hx
    rw [SC20State.attemptsOf, hprep.attempts, attemptsOf_append]
    rcases List.mem_append.1 hx with hx | hx
    · have hlt := h.communication_lt hx
      have hne : (s.newAttempt s.communications.length new.recipient r).communication ≠ x.id :=
        (Nat.ne_of_lt hlt).symm
      rw [if_neg hne, List.append_nil]
      exact h.numbered x hx
    · -- the first attempt of the new communication
      obtain rfl := List.mem_singleton.1 hx
      have hnil : List.filter (fun a => a.communication == x.id) s.attempts = [] := hid ▸ hnone
      rw [if_pos (by exact hid.symm), hnil, hpending]
      refine Numbered.snoc rfl (by simp) ?_ rfl
      simp [SC20State.newAttempt, hnone]

theorem prepareRetry (h : TablesKept s) {c : CommunicationId} {r : RunId} {t : Option TaskId}
    {p : PreparedDelivery} (hp : s.prepareRetry c r t = .ok (some p, s')) : TablesKept s' := by
  obtain ⟨run, old, new, -, hold, hfailed, hid, hkeyeq, hpending, hcomm, hprep⟩ :=
    SC20State.prepareRetry_some hp
  obtain ⟨holdmem, rfl⟩ := communication?_some hold
  have hids : ∀ x ∈ s.communications, (if x.id = old.id then new else x).id = x.id := by
    intro x _
    split
    · next heq => rw [hid, heq]
    · rfl
  have hkeys : ∀ x ∈ s.communications, (if x.id = old.id then new else x).key = x.key := by
    intro x hx
    split
    · next heq => rw [hkeyeq, h.communication_eq hx holdmem heq]
    · rfl
  have hlen : s'.communications.length = s.communications.length := by rw [hcomm, List.length_map]
  refine ⟨h.attemptIds_prepared hprep, ?_, ?_,
    h.owned_prepared hprep hlen.ge (hlen ▸ h.communication_lt holdmem), ?_,
    h.unfinished_prepared hprep⟩
  · rw [hlen, hcomm, List.map_map, ← h.communicationIds]
    exact List.map_congr_left hids
  · rw [hcomm, List.map_map]
    have hmap : List.map ((·.key) ∘ fun x => if x.id = old.id then new else x) s.communications =
        s.communications.map (·.key) := List.map_congr_left hkeys
    rw [hmap]; exact h.keys
  · intro x hx
    rw [hcomm] at hx
    obtain ⟨y, hy, rfl⟩ := List.mem_map.1 hx
    rw [hids y hy, SC20State.attemptsOf, hprep.attempts, attemptsOf_append]
    have hnum := h.numbered y hy
    -- the attempts of a failed communication have all failed, so one more may follow
    by_cases heq : y.id = old.id
    · obtain rfl := h.communication_eq hy holdmem heq
      rw [if_pos (by rfl), if_pos rfl, hpending]
      rw [hfailed] at hnum
      exact Numbered.snoc hnum.sequences hnum.failed rfl rfl
    · rw [if_neg (fun h => heq h.symm), if_neg heq, List.append_nil]
      exact hnum

theorem finalize (h : TablesKept s) {p : PreparedDelivery} {d : DeliveryResult} {now : ℕ}
    {res : SC20ExecutionResult} (hf : s.finalize p d now = .ok (res, s')) : TablesKept s' := by
  obtain ⟨run, a, -, ha, -, hcommunication, hcases⟩ := SC20State.finalize_ok hf
  rcases hcases with ⟨-, rfl⟩ | ⟨hpending, f, g, hs', hfx, hgx⟩
  · exact h
  obtain ⟨hmem, hid⟩ := attempt?_some ha
  have hattempts : s'.attempts = s.attempts.map fun x => if x.id = p.attemptId then f x else x := by
    rw [hs']; rfl
  have hcomms : s'.communications =
      s.communications.map fun x => if x.id = p.communicationId then g x else x := by
    rw [hs']; rfl
  -- the updates keep the columns the invariant speaks of
  have hf' : ∀ x, (if x.id = p.attemptId then f x else x).id = x.id ∧
      (if x.id = p.attemptId then f x else x).communication = x.communication ∧
      (if x.id = p.attemptId then f x else x).sequence = x.sequence := by
    intro x
    split
    · exact ⟨(hfx x).1, (hfx x).2.1, (hfx x).2.2.2.1⟩
    · exact ⟨rfl, rfl, rfl⟩
  have hg' : ∀ x, (if x.id = p.communicationId then g x else x).id = x.id ∧
      (if x.id = p.communicationId then g x else x).key = x.key := by
    intro x
    split
    · exact ⟨(hgx x).1, (hgx x).2.1⟩
    · exact ⟨rfl, rfl⟩
  have hanswered : SC20State.answered d ≠ .pending := by
    unfold SC20State.answered; split <;> simp
  have hlen : s'.communications.length = s.communications.length := by rw [hcomms, List.length_map]
  refine ⟨?_, ?_, ?_, ?_, ?_, ?_⟩
  · rw [hattempts, List.map_map, List.length_map, ← h.attemptIds]
    exact List.map_congr_left fun x _ => (hf' x).1
  · rw [hlen, hcomms, List.map_map, ← h.communicationIds]
    exact List.map_congr_left fun x _ => (hg' x).1
  · rw [hcomms, List.map_map]
    have hmap : List.map ((·.key) ∘ fun x => if x.id = p.communicationId then g x else x)
        s.communications = s.communications.map (·.key) :=
      List.map_congr_left fun x _ => (hg' x).2
    rw [hmap]; exact h.keys
  · intro x hx
    rw [hattempts] at hx
    obtain ⟨y, hy, rfl⟩ := List.mem_map.1 hx
    rw [(hf' y).2.1, hlen]
    exact h.owned y hy
  · intro x hx
    rw [hcomms] at hx
    obtain ⟨y, hy, rfl⟩ := List.mem_map.1 hx
    have hfilter : s'.attemptsOf (if y.id = p.communicationId then g y else y).id =
        (s.attemptsOf y.id).map fun x => if x.id = p.attemptId then f x else x := by
      rw [(hg' y).1, SC20State.attemptsOf, hattempts, List.filter_map]
      refine congrArg _ (List.filter_congr ?_)
      intro x _
      simp only [Function.comp_apply, (hf' x).2.1]
    rw [hfilter]
    have hnum := h.numbered y hy
    by_cases heq : y.id = p.communicationId
    · -- the communication of the attempt: the attempt is its last one
      have hin : a ∈ s.attemptsOf y.id := by
        rw [SC20State.attemptsOf, List.mem_filter]
        exact ⟨hmem, by simp [hcommunication, heq]⟩
      obtain ⟨before, has, hbefore, -⟩ := hnum.eq_last hin (by rw [hpending]; simp)
      have hkept : before.map (fun x => if x.id = p.attemptId then f x else x) = before := by
        conv_rhs => rw [← List.map_id before]
        refine List.map_congr_left ?_
        intro x hx
        have hxmem : x ∈ s.attemptsOf y.id := by rw [has]; exact List.mem_append_left _ hx
        refine if_neg ?_
        intro hxid
        have hxa := h.attempt_eq (List.mem_filter.1 hxmem).1 hmem (hxid.trans hid.symm)
        have hxfailed := hbefore x hx
        rw [hxa, hpending] at hxfailed
        cases hxfailed
      refine ⟨?_, before, f a, ?_, hbefore, ?_⟩
      · rw [List.map_map, List.length_map, ← hnum.sequences]
        exact List.map_congr_left fun x _ => (hf' x).2.2
      · rw [has, List.map_append, List.map_cons, List.map_nil, if_pos hid, hkept]
      · rw [if_pos heq, (hgx y).2.2, (hfx a).2.2.2.2]
    · rw [if_neg heq]
      have hkept : (s.attemptsOf y.id).map (fun x => if x.id = p.attemptId then f x else x) =
          s.attemptsOf y.id := by
        conv_rhs => rw [← List.map_id (s.attemptsOf y.id)]
        refine List.map_congr_left ?_
        intro x hx
        obtain ⟨hxmem, hxc⟩ := List.mem_filter.1 hx
        simp only [beq_iff_eq] at hxc
        refine if_neg ?_
        intro hxid
        have hxa := h.attempt_eq hxmem hmem (hxid.trans hid.symm)
        exact heq (hxc.symm.trans (hxa ▸ hcommunication))
      rw [hkept]; exact hnum
  · intro x hx hst
    rw [hattempts] at hx
    obtain ⟨y, hy, rfl⟩ := List.mem_map.1 hx
    by_cases heq : y.id = p.attemptId
    · rw [if_pos heq, (hfx y).2.2.2.2] at hst
      exact absurd hst hanswered
    · rw [if_neg heq] at hst ⊢
      exact h.unfinished y hy hst

end TablesKept

end SheepContabil
