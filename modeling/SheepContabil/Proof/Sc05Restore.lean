import SheepContabil.Proof.Sc05Unblock

/-!
# The tasks after the compensation of an unblock

* `compensation_restores_iff`: the tasks are restored just when one form can do it.
* `compensation_loses_block`: a task created after the block leaves the others unblocked.
-/

namespace SheepContabil

open Conc

variable {text : String → String}

section Restored

variable {client : ClientId} {s s₁ s₂ : SC05State Simulator} {c₀ : SimulatorClient}

/-- Restorable tasks look as they did before the unblock. -/
theorem readState_compensated (hb : Browser text) (hc₀ : OrdinaryClient text c₀) {c : SimulatorClient}
    (h : BlockedFrom text c₀.tasks c.tasks) (hactive : c.isActive = true) (hne : c.tasks ≠ [])
    (hrestorable : Restorable c.tasks) :
    ∃ st, readState text .tasks (some { c with tasks := compensatedTasks c.tasks }) = .ok st ∧
      statesEqual st (shownTasks true ((inOrder c.tasks).map (rowOf text))) = true := by
  have hback := @reversal_tasks text _ .happyPath _ hb hc₀ h hactive hne rfl
  have hrestoring := hback.undone ⟨.applied, _, _⟩ ⟨rfl, rfl⟩
  exact hrestoring.shown (decide_eq_true hrestorable)

/-- **A failed unblock restores the tasks exactly when they are restorable.** -/
theorem compensation_restores_iff (settings : Settings) (hb : Browser text)
    (hready : Ready text client s) (hblocks : Blocks text settings client s s₁)
    {c₁ c₂ : SimulatorClient} (hrow : s₁.row client = some c₁) (hchanged : Changed text c₁ c₂)
    {scenario : SC05Scenario} (hscenario : ∀ p, scenarioFault p scenario .compensation = none)
    {o : OperationId} {requestKey now : ℕ} {t : TaskId}
    (created : (s₁.setRow client c₂).createRun client .unblock scenario requestKey now =
      (.ok (o, true), s₂)) (token : (s₂.run o).taskId = some t) (redelivered : Bool)
    (fates : ℕ → Fate (Option Interruption))
    (calm : ∀ k, inCompensation
      ((delivered text settings s₂ o t redelivered fates k).shared.traces o) = true →
        (fates k).IsClean) :
    (∃ n, (delivered text settings s₂ o t redelivered fates n).finished 0 = true) ∧
      ∀ n, (delivered text settings s₂ o t redelivered fates n).finished 0 = true →
        ∀ failed ∈ failedPortals
          ((delivered text settings s₂ o t redelivered fates n).shared.traces o), failed ≠ .tasks →
          (TasksRestored text client o (delivered text settings s₂ o t redelivered fates n).shared ↔
            Restorable c₂.tasks) := by
  refine ⟨System.exists_run_done fates 0 _ _ _ 0
    (delivery_started text settings s₂ o t redelivered), fun n finished failed hmem hlate => ?_⟩
  obtain ⟨c₀, hrow₀, hc₀⟩ := hready.row
  obtain ⟨o₁, hleft⟩ := blocks_blocked hb hready hrow₀ hc₀ hblocks
  obtain rfl : c₀.blocked = c₁ := Option.some.inj (hleft.row.symm.trans hrow)
  have hreq := hleft.requested created token
  obtain ⟨v, c', hs, hended⟩ : ∃ v c',
      Alone o s₂ v c' (delivered text settings s₂ o t redelivered fates n).shared ∧
        Ended False scenario (shownTasks true ((inOrder c₂.tasks).map (rowOf text))) (c₀.unblocked c₂)
          { c₂ with tasks := compensatedTasks c₂.tasks } (decide (Restorable c₂.tasks)) v c' :=
    unblock_ended hb hc₀ hleft hchanged hscenario hreq redelivered
      (fun k h => calm k (h.resolve_left id)) finished
  set s₃ := (delivered text settings s₂ o t redelivered fates n).shared with hs₃
  have hfailed : failed ∈ failedPortals v.trace := by
    rw [← hs.view]; exact hmem
  have hstep : (s₃.step o .tasks).view = v.step .tasks := by rw [← hs.view]; rfl
  have hstatus : (s₃.run o).status = v.status := by rw [← hs.view]; rfl
  -- the failure is not of the tasks, so the saga has ended by its compensation
  rcases hended with ⟨-, hnone, -⟩ | ⟨-, hnone | ⟨rfl, hbefore, pid', closed, rest, htrace, hclose⟩⟩
  · rw [hnone] at hfailed; cases hfailed
  · exact absurd (hnone failed hfailed) hlate
  rcases hclose with ⟨hexact, hfail, rfl, hcomp⟩ | ⟨hinexact, hpartial⟩
  · -- restorable tasks read back as the snapshot, and the run fails
    refine iff_of_true ?_ (of_decide_eq_true hexact)
    obtain ⟨hfrom, hactive, -, -⟩ := blockedFrom_changed hchanged (blockedFrom_block hb hc₀)
    have hne : c₂.tasks ≠ [] := by
      obtain ⟨t₀, ht₀⟩ := List.exists_mem_of_ne_nil _ (tasks_ne_of_read hleft.snapshot)
      obtain ⟨t, ht, -⟩ := hfrom.kept t₀ ht₀
      exact List.ne_nil_of_mem ht
    obtain ⟨st, hread, hst⟩ := readState_compensated hb hc₀ hfrom (hactive.trans hc₀.active) hne
      (of_decide_eq_true hexact)
    refine ⟨⟨_, st, ?_, hread, ?_⟩, ?_, ?_, ?_⟩
    · have hrow := hs.row
      unfold SC05State.clientReference at hrow
      rw [hreq.owner] at hrow
      rw [SC05State.row, hs.touches.reference]
      exact hrow
    · have hb : (s₃.step o .tasks).beforeState = (v.step .tasks).before := congrArg StepView.before hstep
      rw [hb, hbefore]; exact hst
    · exact (congrArg StepView.status hstep).trans hcomp
    · exact hstatus.trans hfail
    · have howner : (s₃.operations o).client = client := hs.touches.client.trans hreq.owner
      have htold := hs.told pid' .compensated v.status .blocked rest (by rw [← htrace, ← hs.view]; rfl)
      rwa [howner] at htold
  · -- otherwise the run is only partially failed
    refine iff_of_false (fun h => ?_) (of_decide_eq_false hinexact)
    have hrun := h.run
    rw [hstatus, hpartial] at hrun
    cases hrun

end Restored

section Sample

/-- A request for an unblock in which the accounting portal fails, for the rows `c`. -/
def failingRequest (c : SimulatorClient) : SC05State Simulator :=
  ((blockedSample.setRow 0 c).createRun 0 .unblock .timeoutAccountingApply 1 0).2

/-- The delivery of that unblock, in which nothing else fails. -/
def failingUnblock (c : SimulatorClient) :
    Config SC05Label SC05Label.Resp SC05Exception (SC05State Simulator) SC05Process :=
  delivered id {} (failingRequest c) 1 1 false (fun _ => { call := none }) 100

/-- A task created after the block stays open without the marker, so the compensation of the failed
unblock takes the captured tasks for unblocked ones and does not block them again. -/
theorem compensation_loses_block :
    (Blocks id {} 0 idleSample blockedSample ∧ blockedSample.row 0 = some sampleClient.blocked ∧
      Changed id sampleClient.blocked (newTask.apply sampleClient.blocked)) ∧
    (failingUnblock (newTask.apply sampleClient.blocked)).finished 0 = true ∧
    failedPortals ((failingUnblock (newTask.apply sampleClient.blocked)).shared.traces 1) =
      [.accounting] ∧
    ((failingUnblock (newTask.apply sampleClient.blocked)).shared.run 1).status = .partiallyFailed ∧
    ¬ TasksRestored id 0 1 (failingUnblock (newTask.apply sampleClient.blocked)).shared := by
  have hrun : ((failingUnblock (newTask.apply sampleClient.blocked)).shared.run 1).status =
      .partiallyFailed := by decide +kernel
  refine ⟨⟨blockedSample_blocks, blockedSample_row, .single ⟨newTask, newTask_ok, rfl⟩⟩,
    by decide +kernel, by decide +kernel, hrun, fun h => ?_⟩
  have hfailed := h.run
  rw [hrun] at hfailed
  cases hfailed

theorem compensation_restores_iff_blocked :
    (failingUnblock sampleClient.blocked).finished 0 = true ∧
      TasksRestored id 0 1 (failingUnblock sampleClient.blocked).shared := by
  have hcreated : (blockedSample.setRow 0 sampleClient.blocked).createRun 0 .unblock
      .timeoutAccountingApply 1 0 = (.ok (1, true), failingRequest sampleClient.blocked) :=
    eq_of_created (by decide +kernel)
  have htoken : ((failingRequest sampleClient.blocked).run 1).taskId = some 1 := by decide +kernel
  have hready : Ready id 0 idleSample :=
    ⟨⟨sampleClient, rfl, sampleClient_ordinary⟩, fun _ _ => rfl, fun _ _ => rfl⟩
  have hfin : (failingUnblock sampleClient.blocked).finished 0 = true := by decide +kernel
  have hfailed : failedPortals ((failingUnblock sampleClient.blocked).shared.traces 1) =
      [.accounting] := by decide +kernel
  have h := compensation_restores_iff {} browser_id hready blockedSample_blocks blockedSample_row .refl
    (by decide) hcreated htoken false (fun _ => { call := none }) fun _ _ => ⟨rfl, rfl, rfl⟩
  unfold failingUnblock at hfin hfailed ⊢
  have hmem : SC05Portal.accounting ∈ failedPortals ((delivered id {}
      (failingRequest sampleClient.blocked) 1 1 false (fun _ => { call := none }) 100).shared.traces
        1) := by
    rw [hfailed]; exact List.mem_singleton_self _
  have hrestorable : Restorable sampleClient.blocked.tasks := .inr (by decide)
  exact ⟨hfin, (h.2 100 hfin .accounting hmem (by decide)).2 hrestorable⟩

end Sample

end SheepContabil
