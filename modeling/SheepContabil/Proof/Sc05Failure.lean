import SheepContabil.Proof.Sc05Discipline

/-!
# What a failed run says about the portals

A run is closed as failed when its execution believes that nothing is left of it.

* `run_truthfulFailure`: after a compensation this is true, unless an earlier execution has left
  something behind the step that fails now, or a failed compensation is reported as a missing
  snapshot (`NoHiddenResidue`).
* `run_truthfulOutside`: outside the steps this is true as long as no step loses the status of a
  mutated portal (`Careful`).
-/

namespace SheepContabil

open Conc Conc.Prog

variable {W ι η : Type} {o : OperationId} {careful : Prop}

section Compensated

/-- The steps that hide no residue from a compensation: a portal is mutated after a capture, no
portal behind the failed step is mutated when a compensation begins, and the error of the missing
snapshot closes no run with a step that could not be compensated. -/
def NoHiddenResidue (o : OperationId) : Move SC05Label (Fate ι) η → SagaView → Prop
  | .act _ (.callPortal o' p request) _, v =>
    o' = o → request.call.isInspect = false → (v.step p).before ≠ []
  | .act _ (.compensationCandidates o' failed) _, v =>
    o' = o → ∀ p, v.action.position failed < v.action.position p → dirty v.trace p = false
  | .act _ (.finishFailed o' e _ .compensated _) _, v =>
    o' = o → e.code = .taskMarkerWithoutSnapshot → ∀ p, (v.step p).status ≠ .compensationFailed
  | _, _ => True

instance (v : SagaView) : ∀ m : Move SC05Label (Fate ι) η, Decidable (NoHiddenResidue o m v)
  | .act _ (.callPortal o' p request) _ =>
    inferInstanceAs (Decidable (o' = o → request.call.isInspect = false → (v.step p).before ≠ []))
  | .act _ (.compensationCandidates o' failed) _ =>
    inferInstanceAs (Decidable
      (o' = o → ∀ p, v.action.position failed < v.action.position p → dirty v.trace p = false))
  | .act _ (.finishFailed o' e _ .compensated _) _ =>
    inferInstanceAs (Decidable (o' = o → e.code = .taskMarkerWithoutSnapshot →
      ∀ p, (v.step p).status ≠ .compensationFailed))
  | .act _ (.finishFailed _ _ _ .outside _) _ | .act _ (.prepareOperation ..) _
  | .act _ (.buildScreenshotStorage ..) _ | .act _ (.openSession ..) _ | .act _ (.loadSteps ..) _
  | .act _ (.requireCurrentDelivery ..) _ | .act _ (.touchRun ..) _ | .act _ (.startStep ..) _
  | .act _ (.selectGateway ..) _ | .act _ (.startAttempt ..) _ | .act _ (.saveStep ..) _
  | .act _ (.putScreenshot ..) _ | .act _ (.recordArtifact ..) _ | .act _ (.succeedAttempt ..) _
  | .act _ (.failAttempt ..) _ | .act _ (.priorStep ..) _ | .act _ (.recordStepFinished ..) _
  | .act _ (.markStepFailed ..) _ | .act _ (.hasResidualState ..) _
  | .act _ (.finishSucceeded ..) _ | .act _ (.summarize ..) _ | .act _ (.acknowledge ..) _
  | .act _ (.createRun ..) _ | .act _ (.resumeRun ..) _ | .act _ (.dispatchStart ..) _
  | .act _ (.publish ..) _ | .act _ (.recordDispatchFailure ..) _
  | .act _ (.recordDispatchSuccess ..) _ | .act _ (.reconcileOne ..) _
  | .act _ (.recordRecoveryPublishFailure ..) _ | .act _ (.recordInspectionFailure ..) _
  | .crash _ | .env _ => isTrue trivial

/-- What is known of the mutated portals while nothing hides. -/
structure FailureInv (v : SagaView) : Prop where
  truthful : TruthfulFailure v.trace
  captured : ∀ p, dirty v.trace p = true → (v.step p).before ≠ []
  ahead : inCompensation v.trace = true → ∀ failed candidates,
    lastCompensation v.trace = some (failed, candidates) →
      ∀ p, v.action.position failed < v.action.position p → dirty v.trace p = false

/-- A compensation that claims to have failed nowhere has left nothing. -/
theorem FailureInv.clean {v : SagaView} {c : SagaCore} (h : FailureInv v) (hv : v.Shows c)
    (hin : inCompensation v.trace = true) (hc : c.Compensated false) (p : SC05Portal) :
    dirty v.trace p = false := by
  obtain ⟨failed, candidates, hl, -, hclean, -⟩ := hc
  by_contra hdirty
  rw [Bool.not_eq_false] at hdirty
  have hb := h.captured p hdirty
  rcases Nat.lt_or_ge (v.action.position failed) (v.action.position p) with hlt | hle
  · have := h.ahead hin failed candidates (by rw [hv.trace]; exact hl) p hlt
    rw [this] at hdirty; cases hdirty
  · have := hclean rfl p (by rw [← hv.action]; exact hle) (by rw [← hv.before]; exact hb)
    rw [← hv.trace, hdirty] at this; cases this

/-- The closing of a run after a compensation. -/
theorem closesTruthfully_of_recorded {m : Move SC05Label (Fate ι) (W → W)} {v : SagaView}
    {e : SC05Event} (hI : FailureInv v) (hk : (sagaOutline W ι o True careful).Knows m v)
    (hok : NoHiddenResidue o m v) (he : Recorded o v m e) : ClosesTruthfully e v.trace := by
  have hquiet := notAbandoned_of_recorded hk he
  cases he with
  | started => trivial
  | compensating => trivial
  | succeeded => trivial
  | called => trivial
  | failed pid x flag site t i status client hrun hclose =>
    intro hin
    cases site with
    | outside =>
      have hfalse : inCompensation v.trace = false := hquiet
      rw [hfalse] at hin; cases hin
    | compensated =>
      obtain ⟨c, hv, -, hcomp, -⟩ := knows_pre hk rfl rfl
      have hclean : flag = false → ∀ p, dirty v.trace p = false := by
        rintro rfl; exact hI.clean hv hin hcomp
      have hrestored : x.code = .taskMarkerWithoutSnapshot → flag = false := by
        intro hcode
        obtain ⟨-, -, -, -, -, hflag⟩ := hcomp
        by_contra hne
        obtain ⟨p, hp⟩ := hflag (by simpa using hne)
        exact hok rfl hcode p (hv.compensationFailed hp)
      have hall : flag = false → ∀ (P : Prop) p, dirty v.trace p = true → P := by
        intro hfl P p hp; rw [hclean hfl p] at hp; cases hp
      rcases hclose with ⟨hcode, rfl, rfl⟩ | ⟨-, -, rfl, rfl⟩ | ⟨-, hfl, rfl, rfl⟩
      · exact ⟨fun _ => hclean (hrestored hcode), fun p => hall (hrestored hcode) _ p⟩
      · exact ⟨fun h => (by cases h), fun _ _ => ⟨rfl, rfl⟩⟩
      · exact ⟨fun _ => hclean hfl, fun p => hall hfl _ p⟩

/-- A step that hides nothing keeps what is known of the mutated portals. -/
theorem failureInv_step {m : Move SC05Label (Fate ι) (W → W)} {v v' : SagaView}
    (hI : FailureInv v) (hk : (sagaOutline W ι o True careful).Knows m v)
    (hok : NoHiddenResidue o m v) (hm : (sagaAbstract W ι o).move m v v') : FailureInv v' := by
  obtain ⟨ha, hrec⟩ := trace_step hm
  have htruth := throughout_step hm hI.truthful fun e he => closesTruthfully_of_recorded hI hk hok he
  have hcap : ∀ p, (v.step p).before ≠ [] → (v'.step p).before ≠ [] := by
    intro p hp; rw [captured_step hk hm hp]; exact hp
  rcases hrec with ht | ⟨e, ht, he⟩
  · refine ⟨htruth, fun p hp => hcap p (hI.captured p ?_), ?_⟩
    · rw [← ht]; exact hp
    · rw [ht, ha]; exact hI.ahead
  -- the step has recorded an event: what is dirty, and what the compensation still has to visit
  cases he with
  | started | succeeded =>
    refine ⟨htruth, fun p hp => hcap p (hI.captured p ?_), fun hin => ?_⟩
    · rw [ht] at hp; exact hp
    · rw [ht] at hin; cases hin
  | failed =>
    refine ⟨htruth, fun p hp => hcap p (hI.captured p ?_), fun hin => ?_⟩
    · rw [ht] at hp; exact hp
    · rw [ht] at hin; cases hin
  | compensating pid failed i =>
    refine ⟨htruth, fun p hp => hcap p (hI.captured p ?_), fun _ f cs hl p hlt => ?_⟩
    · rw [ht] at hp; exact hp
    · rw [ht] at hl ⊢
      cases hl
      rw [ha] at hlt
      exact hok rfl p hlt
  | called pid p request i outcome =>
    refine ⟨htruth, fun q hq => hcap q ?_, fun hin f cs hl q hlt => ?_⟩
    · rw [ht] at hq
      -- an inspection makes nothing dirty, another call at most the portal it is on
      by_cases hcall : request.call = .inspect
      · rw [hcall] at hq
        exact hI.captured q (dirty_of_inspect (c := v.core) hq)
      · by_cases hqp : p = q
        · subst hqp
          refine hok rfl ?_
          cases hc : request.call <;> simp_all [GatewayCall.isInspect]
        · refine hI.captured q ?_
          simpa [dirty, hqp] using hq
    · rw [ht] at hin hl ⊢
      rw [ha] at hlt
      obtain ⟨c, hv, -, -, -, hphase, hpos, -⟩ := knows_pre hk rfl rfl
      -- the compensation calls the portal it is at, which is not ahead of it
      have hqp : p ≠ q := by
        rintro rfl
        have hin' : inCompensation v.trace = true := hin
        rw [inCompensation, hv.trace, hphase] at hin'
        have hle := hpos (by simpa using hin') f cs (by rw [← hv.trace]; exact hl)
        rw [← hv.action] at hle
        omega
      have hold := hI.ahead hin f cs hl q hlt
      simpa [dirty, hqp] using hold

theorem SagaView.Fresh.failureInv {v : SagaView} (h : v.Fresh) : FailureInv v := by
  refine ⟨by rw [h.trace]; exact throughout_nil _, fun p hp => ?_, fun hin => ?_⟩
  · rw [h.trace] at hp; cases hp
  · rw [h.trace] at hin; cases hin

/-- The first delivery of `residueRun`: the run is closed as partially failed. -/
def partialRun : List (Choice (Fate (Option Interruption)) SC05Process (Simulator → Simulator)) :=
  residueRun.take 146

end Compensated

section Outside

theorem hasResidualState_false {v : SagaView} (h : v.hasResidualState = false) (p : SC05Portal) :
    (v.step p).status.isResidual = false := by
  have hp := List.any_eq_false.1 h p (mem_order v.action p)
  cases hs : (v.step p).status <;> simp_all [SC05StepStatus.isResidual]

/-- The closing of a run outside the steps. -/
theorem reportsResidue_of_recorded {quiet : Prop} {m : Move SC05Label (Fate ι) (W → W)}
    {v : SagaView} {e : SC05Event} (hk : (sagaOutline W ι o quiet True).Knows m v)
    (he : Recorded o v m e) : ReportsResidue v.action e v.trace := by
  cases he with
  | started => trivial
  | compensating => trivial
  | succeeded => trivial
  | called => trivial
  | failed pid x flag site t i status client hrun hclose =>
    cases site with
    | compensated => trivial
    | outside =>
      obtain ⟨c, hv, -, hcode, -, hcareful⟩ := knows_pre hk rfl rfl
      obtain ⟨hacc, hflag⟩ := hcareful trivial
      have hacc := hv.accounted_running hrun hacc
      rcases hclose with ⟨hx, -⟩ | ⟨-, -, rfl, rfl⟩ | ⟨-, rfl, rfl, rfl⟩
      · exact absurd hx hcode
      · exact .inr ⟨rfl, rfl⟩
      · refine .inl ⟨rfl, rfl, fun p => ?_⟩
        by_contra hp
        have hres := hacc p (by simpa using hp)
        rw [hasResidualState_false (hflag hrun).symm p] at hres
        cases hres

/-- A run resumed with this delivery token, whose browser does not open. -/
def resumeWithoutBrowser (pid : ℕ) :
    List (Choice (Fate (Option Interruption)) SC05Process (Simulator → Simulator)) :=
  .start (.resumeAndDispatch 0) :: sampleSteps pid 0 4 [] ++
    .start (.deliver 0 (.uuid 1) false) ::
      sampleSteps (pid + 1) 0 7 [(2, { fault := some .timeout, call := none })]

/-- The worker dies after it has blocked the account in the file portal; its message is delivered
again, and the quarantined run is resumed. -/
def lostWorkerRun : List (Choice (Fate (Option Interruption)) SC05Process (Simulator → Simulator)) :=
  .start (.deliver 0 (.uuid 0) false) :: sampleSteps 0 0 22 [] ++
    .crash 0 :: .start (.deliver 0 (.uuid 0) true) :: sampleSteps 1 0 3 [] ++
    resumeWithoutBrowser 2

end Outside

end SheepContabil
