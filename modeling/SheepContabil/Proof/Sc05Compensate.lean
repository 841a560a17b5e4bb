import SheepContabil.Proof.Sc05Apply

/-!
# The compensation of an execution

* `compensateStep_triple`: a restore call follows the execution's own inspection.
* `compensateSteps_triple`: the loop visits every candidate up to the failed step, and marks
  each it could not restore.
* `runSaga_triple`, `failOutside_wp`: the rest of `execute_sc05`.
-/

namespace SheepContabil

open Conc Conc.Prog

variable {W ι : Type} {operation : LoadedOperation} {quiet careful : Prop} {pid : ℕ} {c : SagaCore}

section Step

variable {p : SC05Portal} {step : SC05PortalStep}

/-- What the compensation of one step leaves alone. -/
structure CompFrame (p : SC05Portal) (c c' : SagaCore) : Prop where
  action : c'.action = c.action
  before : c'.before = c.before
  desired : c'.desired = c.desired
  phase : phase? c'.trace = phase? c.trace
  last : lastCompensation c'.trace = lastCompensation c.trace
  dirty : ∀ q, q ≠ p → dirty c'.trace q = dirty c.trace q
  status : ∀ q, q ≠ p → c'.status q = c.status q

namespace CompFrame

variable {c c' c'' : SagaCore}

theorem rfl : CompFrame p c c :=
  ⟨Eq.refl _, Eq.refl _, Eq.refl _, Eq.refl _, Eq.refl _, fun _ _ => Eq.refl _, fun _ _ => Eq.refl _⟩

theorem trans (h : CompFrame p c c') (h' : CompFrame p c' c'') : CompFrame p c c'' :=
  ⟨h'.action.trans h.action, h'.before.trans h.before, h'.desired.trans h.desired,
    h'.phase.trans h.phase, h'.last.trans h.last,
    fun q hq => (h'.dirty q hq).trans (h.dirty q hq),
    fun q hq => (h'.status q hq).trans (h.status q hq)⟩

theorem saveStatus {u : StepUpdate} (hb : u.beforeState = none) (hd : u.desiredState = none) :
    CompFrame p c (c.saveStep p u) := by
  refine ⟨Eq.refl _, ?_, ?_, Eq.refl _, Eq.refl _, fun _ _ => Eq.refl _, fun q hq => ?_⟩
  · simp [SagaCore.saveStep, hb]
  · simp [SagaCore.saveStep, hd]
  · simp [SagaCore.saveStep, hq]

theorem call (pid : ℕ) (phase : Phase) (gc : GatewayCall) (outcome : CallOutcome) :
    CompFrame p c (c.push (c.callEvent pid p phase gc outcome)) := by
  refine ⟨Eq.refl _, Eq.refl _, Eq.refl _, Eq.refl _, Eq.refl _, fun q hq => ?_, fun _ _ => Eq.refl _⟩
  rw [dirty_push_call, if_neg (Ne.symm hq)]

end CompFrame

/-- How the compensation of one step ends: visited and not mutated, visited with an error, or
stopped with the execution. -/
def StepCompensated (quiet careful : Prop) (p : SC05Portal) (c : SagaCore)
    (r : Except SC05Exception Unit) (c' : SagaCore) : Prop :=
  CompFrame p c c' ∧ match r with
    | .ok _ => visited c'.trace = p :: visited c.trace ∧ dirty c'.trace p = false
    | .error e => (visited c'.trace = p :: visited c.trace ∧ ∃ x, e = .sc05 x) ∨
        Stopped quiet careful c' e

theorem markCompensated_triple {c₀ : SagaCore} (st : PortalState) (hc : CompFrame p c₀ c)
    (hv : visited c.trace = p :: visited c₀.trace) (hd : dirty c.trace p = false) :
    Triple W ι operation.id quiet careful pid c (markCompensated operation p st)
      (StepCompensated quiet careful p c₀) := by
  unfold markCompensated
  refine Triple.bind (R := fun r c' => CompFrame p c c' ∧ c'.trace = c.trace ∧
    ∀ e, r = .error e → Stopped quiet careful c' e) ?_ ?_ ?_
  · refine Triple.saveStep (writePre_saveStep rfl rfl ?_) (fun _ => ?_) fun e he => ?_
    · intro _ _ _ _ hdirty; rw [hd] at hdirty; cases hdirty
    · exact ⟨CompFrame.saveStatus rfl rfl, rfl, fun _ h => by cases h⟩
    · exact ⟨CompFrame.rfl, rfl, fun _ h => by cases h; exact he⟩
  · rintro _ c' ⟨hf, ht, -⟩
    refine Triple.read rfl rfl (fun _ _ _ _ h => h) (fun i v e h => ⟨_, h⟩) ?_ ?_
    · intro _ _ _ _; exact ⟨hc.trans hf, by rw [ht]; exact hv, by rw [ht]; exact hd⟩
    · intro e he; exact ⟨hc.trans hf, .inr he⟩
  · rintro e c' ⟨hf, -, he⟩
    exact ⟨hc.trans hf, .inr (he e rfl)⟩

/-- A call of a compensation that ends without evidence ends the compensation of the step. -/
theorem stepCompensated_of_invoked {c₀ c' : SagaCore} {call : GatewayCall} {e : SC05Exception}
    (h : Invoked quiet careful pid c p .compensation call (.error e) c') (hf : CompFrame p c₀ c)
    (hv : ∀ outcome, visited (c.push (c.callEvent pid p .compensation call outcome)).trace =
      p :: visited c₀.trace) :
    StepCompensated quiet careful p c₀ (.error e) c' := by
  rcases h with ⟨rfl, e', he, hs⟩ | ⟨outcome, rfl, he⟩
  · cases he; exact ⟨hf, .inr hs⟩
  · refine ⟨hf.trans (CompFrame.call ..), ?_⟩
    rcases he with he | he
    · exact .inl ⟨hv outcome, he⟩
    · exact .inr he

/-- **A compensation restores only what it has just seen as desired.** -/
theorem compensateStep_triple (hb : step.beforeState = c.before p)
    (hd : step.desiredState = c.desired p) (hne : c.desired p ≠ [])
    (hin : phase? c.trace = some .compensation)
    (hpos : ∀ q ∈ visited c.trace, c.action.position p < c.action.position q)
    (hfailed : ∀ failed candidates, lastCompensation c.trace = some (failed, candidates) →
      c.action.position p ≤ c.action.position failed) :
    Triple W ι operation.id quiet careful pid c (compensateStep operation p step)
      (StepCompensated quiet careful p c) := by
  unfold compensateStep
  refine Triple.bind (invoke_triple fun _ =>
      ⟨fun _ => hpos, fun h => absurd rfl h, hin, fun _ => hfailed, fun _ h => by cases h⟩)
    ?_ fun e c' h => stepCompensated_of_invoked h CompFrame.rfl fun _ => rfl
  rintro ev c' (⟨-, e, he, -⟩ | ⟨outcome, hc', ho⟩)
  · cases he
  simp only at ho; subst ho
  obtain ⟨c1, hc1, rfl⟩ : ∃ c1, c1 = c.push (c.callEvent pid p .compensation .inspect
      (.returned ev)) ∧ c' = c1 := ⟨_, rfl, hc'⟩
  have f1 : CompFrame p c c' := by rw [hc1]; exact CompFrame.call ..
  have hv1 : visited c'.trace = p :: visited c.trace := by rw [hc1]; rfl
  split
  · -- the portal shows the captured state already: nothing is called
    rename_i heq
    rw [hb] at heq
    have hd1 : dirty c'.trace p = false := by
      rw [hc1, dirty_push_call]; simp [dirtyAfter, heq]
    refine Triple.read_bind rfl rfl (fun _ _ _ _ h => h) (fun i v e h => ⟨_, h⟩) ?_
      fun e he => ⟨f1, .inr he⟩
    intro _ _ _ _
    split
    · exact Triple.ret ⟨f1, hv1, hd1⟩
    · exact markCompensated_triple _ f1 hv1 hd1
  · -- a state that is neither captured nor desired is left to a person
    rename_i hdiff
    split
    · exact Triple.raise ⟨f1, .inl ⟨hv1, _, rfl⟩⟩
    rename_i heq
    rw [hb] at hdiff; rw [hd] at heq
    refine Triple.bind (invoke_triple fun v => ⟨fun outcome => ⟨rfl, ?_, ?_, ?_, ?_⟩, fun _ => ?_,
      f1.phase.trans hin, fun _ failed candidates hl => ?_, fun _ h => by cases h⟩) ?_
      fun e c'' h => stepCompensated_of_invoked h f1 fun _ => hv1
    · rw [f1.before, hc1]; exact ⟨rfl, rfl, rfl, rfl, rfl⟩
    · rw [f1.desired]; simpa using heq
    · rw [f1.before]; simpa using hdiff
    · rw [f1.before]; exact hb
    · rw [f1.desired]; exact hne
    · rw [f1.action]; rw [f1.last] at hl; exact hfailed failed candidates hl
    · rintro restored c2 (⟨-, e, he, -⟩ | ⟨outcome, hc2, ho⟩)
      · cases he
      simp only at ho; subst ho
      have f2 : CompFrame p c c2 := by rw [hc2]; exact f1.trans (CompFrame.call ..)
      have hv2 : visited c2.trace = p :: visited c.trace := by rw [hc2]; exact hv1
      split
      · exact Triple.raise ⟨f2, .inl ⟨hv2, _, rfl⟩⟩
      rename_i hres
      have hd2 : dirty c2.trace p = false := by
        have hbe : c'.before p = step.beforeState := by rw [f1.before, hb]
        rw [hc2, dirty_push_call, if_pos rfl, hbe]
        simpa [dirtyAfter] using hres
      refine Triple.read_bind rfl rfl (fun _ _ _ _ h => h) (fun i v e h => ⟨_, h⟩) ?_ ?_
      · intro _ _ _ _; exact markCompensated_triple _ f2 hv2 hd2
      · intro e he; exact ⟨f2, .inr he⟩

end Step

section Loop

variable {p : SC05Portal} {step : SC05PortalStep}

/-- The loop of a compensation, with these rows left to visit. -/
structure Compensating (careful : Prop) (failed : SC05Portal) (candidates : List SC05Portal)
    (rest : List (SC05Portal × SC05PortalStep)) (flag : Bool) (c : SagaCore) : Prop where
  phase : phase? c.trace = some .compensation
  last : lastCompensation c.trace = some (failed, candidates)
  captured : ∀ p, c.before p ≠ [] → c.desired p ≠ []
  all : ∀ p, c.before p ≠ [] → p ∈ candidates
  rows : RowsOf c rest
  kept : ∀ x ∈ rest, c.before x.1 ≠ []
  sorted : rest.Pairwise fun x y => c.action.position y.1 < c.action.position x.1
  ahead : ∀ x ∈ rest, ∀ q ∈ visited c.trace, c.action.position x.1 < c.action.position q
  done : ∀ q ∈ candidates, q ∉ rest.map Prod.fst → c.action.position q ≤ c.action.position failed →
    q ∈ visited c.trace ∧ (flag = false → dirty c.trace q = false)
  flagged : flag = true → ∃ q, q ∉ rest.map Prod.fst ∧ c.status q = .compensationFailed
  accounted : careful → ∀ q, dirty c.trace q = true →
    (q ∈ rest.map Prod.fst ∧ c.action.position q ≤ c.action.position failed) ∨
      (c.status q).isResidual = true

namespace Compensating

variable {failed : SC05Portal} {candidates : List SC05Portal}
  {rest : List (SC05Portal × SC05PortalStep)} {flag : Bool} {c c' : SagaCore}

theorem finish (h : Compensating careful failed candidates [] flag c) :
    c.Compensated flag ∧ (careful → c.Accounted) := by
  refine ⟨⟨failed, candidates, h.last, fun p hp hle => (h.done p hp (by simp) hle).1, ?_, ?_⟩, ?_⟩
  · intro hflag p hle hb
    exact (h.done p (h.all p hb) (by simp) hle).2 hflag
  · intro hflag
    obtain ⟨q, -, hq⟩ := h.flagged hflag
    exact ⟨q, hq⟩
  · intro hcareful q hq
    rcases h.accounted hcareful q hq with ⟨hmem, -⟩ | hres
    · cases hmem
    · exact hres

theorem notMem_rest (h : Compensating careful failed candidates ((p, step) :: rest) flag c) :
    p ∉ rest.map Prod.fst := by
  intro hp
  obtain ⟨x, hx, rfl⟩ := List.mem_map.1 hp
  exact absurd (List.rel_of_pairwise_cons h.sorted hx) (lt_irrefl _)

/-- A step after the failed one is skipped. -/
theorem skip (h : Compensating careful failed candidates ((p, step) :: rest) flag c)
    (hpos : c.action.position failed < c.action.position p) :
    Compensating careful failed candidates rest flag c := by
  refine ⟨h.phase, h.last, h.captured, h.all, fun x hx => h.rows x (List.mem_cons_of_mem _ hx),
    fun x hx => h.kept x (List.mem_cons_of_mem _ hx), h.sorted.of_cons,
    fun x hx => h.ahead x (List.mem_cons_of_mem _ hx), ?_, ?_, ?_⟩
  · intro q hq hrest hle
    refine h.done q hq ?_ hle
    simp only [List.map_cons, List.mem_cons, not_or]
    refine ⟨?_, hrest⟩
    rintro rfl; omega
  · intro hflag
    obtain ⟨q, hq, hu⟩ := h.flagged hflag
    simp only [List.map_cons, List.mem_cons, not_or] at hq
    exact ⟨q, hq.2, hu⟩
  · intro hcareful q hq
    refine (h.accounted hcareful q hq).imp_left ?_
    rintro ⟨hmem, hle⟩
    simp only [List.map_cons, List.mem_cons] at hmem
    refine ⟨hmem.resolve_left ?_, hle⟩
    rintro rfl; omega

/-- A step has been visited; `flag'` says whether a compensation has failed by now. -/
theorem visit (flag' : Bool) (h : Compensating careful failed candidates ((p, step) :: rest) flag c)
    (hf : CompFrame p c c') (hv : visited c'.trace = p :: visited c.trace)
    (hclean : flag' = false → flag = false ∧ dirty c'.trace p = false)
    (hflag : flag' = true → flag = true ∨ c'.status p = .compensationFailed)
    (hacc : dirty c'.trace p = true → (c'.status p).isResidual = true) :
    Compensating careful failed candidates rest flag' c' := by
  have hp := h.notMem_rest
  refine ⟨hf.phase.trans h.phase, hf.last.trans h.last, ?_, ?_, ?_, ?_, ?_, ?_, ?_, ?_, ?_⟩
  · intro q hq; rw [hf.before] at hq; rw [hf.desired]; exact h.captured q hq
  · intro q hq; rw [hf.before] at hq; exact h.all q hq
  · intro x hx; rw [hf.before, hf.desired]; exact h.rows x (List.mem_cons_of_mem _ hx)
  · intro x hx; rw [hf.before]; exact h.kept x (List.mem_cons_of_mem _ hx)
  · rw [hf.action]; exact h.sorted.of_cons
  · intro x hx q hq
    rw [hf.action]
    rw [hv, List.mem_cons] at hq
    rcases hq with rfl | hq
    · exact List.rel_of_pairwise_cons h.sorted hx
    · exact h.ahead x (List.mem_cons_of_mem _ hx) q hq
  · -- the steps done: this one, and those done before, whose traces it left alone
    intro q hq hrest hle
    rw [hf.action] at hle
    rw [hv]
    by_cases hqp : q = p
    · subst hqp
      exact ⟨List.mem_cons_self, fun hfl => (hclean hfl).2⟩
    · obtain ⟨h1, h2⟩ := h.done q hq (by simp [hqp]; simpa using hrest) hle
      refine ⟨List.mem_cons_of_mem _ h1, fun hfl => ?_⟩
      rw [hf.dirty q hqp]; exact h2 (hclean hfl).1
  · intro hfl
    rcases hflag hfl with hold | hnew
    · obtain ⟨q, hq, hu⟩ := h.flagged hold
      simp only [List.map_cons, List.mem_cons, not_or] at hq
      exact ⟨q, hq.2, by rw [hf.status q hq.1]; exact hu⟩
    · exact ⟨p, hp, hnew⟩
  · -- a portal still dirty is the step's own, or was accounted for before
    intro hcareful q hq
    by_cases hqp : q = p
    · subst hqp; exact .inr (hacc hq)
    · rw [hf.dirty q hqp] at hq
      rw [hf.status q hqp, hf.action]
      refine (h.accounted hcareful q hq).imp_left ?_
      rintro ⟨hmem, hle⟩
      simp only [List.map_cons, List.mem_cons] at hmem
      exact ⟨hmem.resolve_left hqp, hle⟩

end Compensating

theorem markCompensationFailed_triple (x : SC05Error) :
    Triple W ι operation.id quiet careful pid c (markCompensationFailed operation p x) fun r c' =>
      CompFrame p c c' ∧ c'.trace = c.trace ∧ match r with
        | .ok _ => c'.status p = .compensationFailed
        | .error e => Stopped quiet careful c' e := by
  unfold markCompensationFailed
  refine Triple.read_bind rfl rfl (fun _ _ _ _ h => h) (fun i v e h => ⟨_, h⟩) ?_
    fun e he => ⟨CompFrame.rfl, rfl, he⟩
  intro _ _ _ _
  refine Triple.bind (R := fun r c' => CompFrame p c c' ∧ c'.trace = c.trace ∧ match r with
    | .ok _ => c'.status p = .compensationFailed
    | .error e => Stopped quiet careful c' e) ?_ ?_ ?_
  · refine Triple.saveStep (writePre_saveStep rfl rfl ?_) (fun _ => ?_) fun e he => ?_
    · intro _ _ h _ _; cases h; rfl
    · exact ⟨CompFrame.saveStatus rfl rfl, rfl, by simp [SagaCore.saveStep]⟩
    · exact ⟨CompFrame.rfl, rfl, he⟩
  · rintro a c' ⟨hf, ht, hs⟩
    refine Triple.read rfl rfl (fun _ _ _ _ h => h) (fun i v e h => ⟨_, h⟩) ?_ ?_
    · intro _ _ _ _; exact ⟨hf, ht, hs⟩
    · intro e he; exact ⟨hf, ht, he⟩
  · rintro e c' ⟨hf, ht, he⟩
    exact ⟨hf, ht, he⟩

/-- **The loop of a compensation visits every candidate up to the failed step.** -/
theorem compensateSteps_triple {failed : SC05Portal} {candidates : List SC05Portal} :
    ∀ (rows : List (SC05Portal × SC05PortalStep)) (flag : Bool) (c : SagaCore),
      operation.op.action = c.action → Compensating careful failed candidates rows flag c →
      Triple W ι operation.id quiet careful pid c (compensateSteps operation failed rows flag)
        fun r c' => c'.action = c.action ∧ match r with
          | .ok flag' => c'.Compensated flag' ∧ (careful → c'.Accounted)
          | .error e => Aborted quiet careful c' e
  | [], flag, c, _, h => Triple.ret ⟨rfl, h.finish⟩
  | (p, step) :: rest, flag, c, ha, h => by
    unfold compensateSteps
    split
    · -- the steps after the failed one were never applied
      rename_i hpos
      rw [ha] at hpos
      exact compensateSteps_triple rest flag c ha (h.skip hpos)
    rename_i hpos
    obtain ⟨hb, hd⟩ := h.rows (p, step) List.mem_cons_self
    have hk := h.kept (p, step) List.mem_cons_self
    have hdk := h.captured p hk
    split
    · rename_i hempty
      simp only [Bool.or_eq_true, List.isEmpty_iff] at hempty
      rcases hempty with he | he
      · exact absurd (hd ▸ he) hdk
      · exact absurd (hb ▸ he) hk
    have hfailed : ∀ failed' candidates', lastCompensation c.trace = some (failed', candidates') →
        c.action.position p ≤ c.action.position failed' := by
      intro failed' candidates' hl
      rw [h.last] at hl; cases hl
      rw [ha] at hpos; omega
    refine Triple.selectGateway_bind ?_ fun e he hm => ⟨rfl, .inr ⟨he, hm⟩⟩
    refine Triple.bind (R := fun r c' => ∃ r', r = .ok r' ∧ StepCompensated quiet careful p c r' c')
      (Triple.attempt ((compensateStep_triple hb hd hdk h.phase
        (h.ahead (p, step) List.mem_cons_self) hfailed).mono fun r c' h => ⟨r, rfl, h⟩)) ?_
      (by rintro e c' ⟨r', h, -⟩; cases h)
    rintro r c1 ⟨r', hr', hf, hres⟩
    cases hr'
    have ha1 : operation.op.action = c1.action := ha.trans hf.action.symm
    split
    · obtain ⟨hv, hclean⟩ := hres
      have h1 := h.visit flag hf hv (fun hfl => ⟨hfl, hclean⟩) (fun hfl => .inl hfl)
        fun hdirty => by rw [hclean] at hdirty; cases hdirty
      exact (compensateSteps_triple rest flag c1 ha1 h1).mono fun r c' hr =>
        ⟨hr.1.trans hf.action, hr.2⟩
    · -- a failed restore is recorded, and the loop goes on
      rename_i x
      obtain ⟨hv, -⟩ := hres.resolve_right (by rintro (h | ⟨⟨_, h⟩, -⟩) <;> cases h)
      refine Triple.bind (markCompensationFailed_triple x) ?_ ?_
      · rintro _ c2 ⟨hf2, ht, hs⟩
        have h2 := h.visit true (hf.trans hf2) (by rw [ht]; exact hv) (fun hfl => by cases hfl)
          (fun _ => .inr hs) fun _ => by rw [hs]; rfl
        refine (compensateSteps_triple rest true c2 (ha1.trans hf2.action.symm) h2).mono ?_
        exact fun r c' hr => ⟨hr.1.trans (hf.trans hf2).action, hr.2⟩
      · rintro e c2 ⟨hf2, -, he⟩
        exact ⟨(hf.trans hf2).action, he.aborted⟩
    · -- any other exception ends the loop
      rename_i e he
      rcases hres with ⟨-, x, rfl⟩ | hstop
      · exact absurd rfl (he x)
      · exact Triple.raise ⟨hf.action, hstop.aborted⟩

theorem mem_order (action : SC05Action) (p : SC05Portal) : p ∈ action.order := by
  cases action <;> cases p <;> decide

theorem order_sorted (action : SC05Action) :
    action.order.reverse.Pairwise fun p q => action.position q < action.position p := by
  cases action <;> decide

theorem order_nodup (action : SC05Action) : action.order.Nodup := by
  cases action <;> decide

/-- The rows that `_compensate` has loaded. -/
theorem compensating_init {v : SagaView} (hv : v.Shows c) (hinv : SagaInv careful v)
    {failed : SC05Portal} (hacc : careful → c.AccountedBut failed)
    {rows : List (SC05Portal × SC05PortalStep)}
    (hrows : rows.map (fun x => (x.1, x.2.view)) = v.candidates) :
    Compensating careful failed (v.candidates.map Prod.fst) rows false
      (c.push (.compensating pid failed (v.candidates.map Prod.fst))) := by
  have hfst : rows.map Prod.fst = v.candidates.map Prod.fst := by
    rw [← hrows, List.map_map]; rfl
  -- the candidates are the captured steps, in the reverse order
  have hcand : ∀ p, p ∈ v.candidates.map Prod.fst ↔ c.before p ≠ [] := by
    intro p
    simp [hv.candidates, mem_order]
  have hrow : ∀ x ∈ rows, x.2.view = v.step x.1 := by
    intro x hx
    have hmem : (x.1, x.2.view) ∈ v.candidates := hrows ▸ List.mem_map_of_mem hx
    simp only [SagaView.candidates, List.mem_filter, List.mem_reverse, List.mem_map] at hmem
    obtain ⟨⟨p, -, hp⟩, -⟩ := hmem
    simp only [Prod.mk.injEq] at hp
    rw [← hp.2, hp.1]
  refine ⟨rfl, rfl, ?_, ?_, ?_, ?_, ?_, ?_, ?_, ?_, ?_⟩
  · intro p hp
    have hp' := hinv.1 p (by rw [hv.before p]; exact hp)
    rw [hv.desired p] at hp'; exact hp'
  · intro p hp; exact (hcand p).2 hp
  · intro x hx
    have hb := hv.before x.1
    have hd := hv.desired x.1
    rw [← hrow x hx] at hb hd
    exact ⟨hb, hd⟩
  · intro x hx
    exact (hcand x.1).1 (hfst ▸ List.mem_map_of_mem hx)
  · have hpair : (rows.map Prod.fst).Pairwise fun p q =>
        c.action.position q < c.action.position p := by
      rw [hfst, hv.candidates]
      exact (order_sorted c.action).filter _
    exact List.pairwise_map.1 hpair
  · intro x _ q hq; cases hq
  · intro q hq hrest; exact absurd (hfst ▸ hq) hrest
  · intro h; cases h
  · -- what was applied was captured first, so a dirty portal is a candidate
    intro hcareful q hq
    have hq' : dirty c.trace q = true := hq
    by_cases hqf : q = failed
    · subst hqf
      refine .inl ⟨hfst ▸ (hcand q).2 ?_, le_refl _⟩
      rw [← hv.before q]
      exact (hinv.2 hcareful).2 q (by rw [hv.trace]; exact hq')
    · exact .inr (hacc hcareful q hqf hq')

/-- `_compensate`. -/
theorem compensate_triple {failed : SC05Portal} (ha : operation.op.action = c.action)
    (hin : phase? c.trace = some .apply)
    (hacc : careful → c.AccountedBut failed) :
    Triple W ι operation.id quiet careful pid c (compensate operation failed) fun r c' =>
      c'.action = c.action ∧ match r with
        | .ok flag => c'.Compensated flag ∧ (careful → c'.Accounted)
        | .error e => Aborted quiet careful c' e := by
  unfold compensate
  refine Triple.bind (R := fun r c' => c'.action = c.action ∧ match r with
    | .ok rows => ∃ candidates, Compensating careful failed candidates rows false c'
    | .error e => Aborted quiet careful c' e)
    (Triple.call rfl (fun _ _ _ => by simp [WritePre, hin]) ?_) ?_ ?_
  · intro v hv hwk hinv i r v' hq _ heff
    have hw : c.worker = some pid := hv.worker ▸ hwk
    cases r with
    | ok rows =>
      obtain ⟨rfl, hrows⟩ := heff
      exact ⟨_, hv.push _, hw, rfl, _, compensating_init hv hinv hacc hrows⟩
    | error e =>
      obtain ⟨rfl, he⟩ := heff
      exact ⟨c, hv, hw, rfl,
        (stopped_of_refused (t := none) (v := v') hq (.inr he)).aborted⟩
  · rintro rows c' ⟨ha', candidates, h⟩
    exact (compensateSteps_triple rows false c' (ha.trans ha'.symm) h).mono fun r c'' hr =>
      ⟨hr.1.trans ha', hr.2⟩
  · rintro e c' h; exact h

end Loop

section Saga

/-- The `try` block of `execute_sc05` ends, or leaves a failure to the handlers. -/
theorem runSaga_triple (ha : operation.op.action = c.action) (hin : phase? c.trace = some .apply)
    (hacc : careful → c.Accounted) :
    Triple W ι operation.id quiet careful pid c (runSaga operation) fun r c' =>
      ∀ e, r = .error e → Aborted quiet careful c' e := by
  have hfault : ∀ e, Foreign e → ∀ e', (.error e : Except SC05Exception Unit) = .error e' →
      Aborted quiet careful c e' := by
    rintro e he e' h; cases h; exact .inr ⟨he, fun _ => by simp [inCompensation, hin], hacc⟩
  have hstop : ∀ {c'}, ∀ e, Stopped quiet careful c' e → ∀ e',
      (.error e : Except SC05Exception Unit) = .error e' → Aborted quiet careful c' e' := by
    rintro c' e he e' h; cases h; exact he.aborted
  unfold runSaga
  refine Triple.fault_bind rfl rfl (fun _ _ _ _ h => h) (fun _ => ?_) hfault
  refine Triple.fault_bind rfl rfl (fun _ _ _ _ h => h) (fun _ => ?_) hfault
  refine Triple.read_bind rfl rfl (fun _ _ _ _ h => h) (fun i v e h => refused_of_db h) ?_ hstop
  intro rows v hv hrows
  have hfst : rows.map Prod.fst = c.action.order := by
    have := congrArg (List.map Prod.fst) hrows
    simpa [hv.action, Function.comp_def] using this
  have hrowsOf : RowsOf c rows := by
    intro x hx
    have hmem : (x.1, x.2.view) ∈ v.action.order.map fun p => (p, v.step p) :=
      hrows ▸ List.mem_map_of_mem hx
    obtain ⟨p, -, hp⟩ := List.mem_map.1 hmem
    simp only [Prod.mk.injEq] at hp
    obtain ⟨rfl, hstep⟩ := hp
    rw [← hv.before, ← hv.desired, hstep]
    exact ⟨rfl, rfl⟩
  refine Triple.bind (applySteps_triple rows c ha (hfst ▸ order_nodup _) hrowsOf hin hacc) ?_ ?_
  swap
  · rintro e c' ⟨-, -, he⟩ e' h; cases h; exact he
  rintro failure c1 ⟨ha1, hin1, h1⟩
  cases failure with
  | none =>
    -- every portal shows its desired state before the run succeeds
    refine Triple.read_bind rfl rfl (fun _ _ _ _ h => h) (fun i v e h => ⟨_, h⟩) ?_ hstop
    intro _ _ _ _
    refine Triple.call rfl (fun _ _ _ p => h1 p (.inl (hfst ▸ mem_order _ p))) ?_
    intro v hv hwk _ i r v' hq _ heff
    have hw : c1.worker = some pid := hv.worker ▸ hwk
    cases r with
    | error e =>
      obtain ⟨rfl, he⟩ := heff
      exact ⟨c1, hv, hw, hstop e (stopped_of_refused (t := none) (v := v') hq (.inr he))⟩
    | ok _ =>
      refine ⟨_, .core v', ?_, fun _ h => by cases h⟩
      rcases heff with ⟨-, rfl⟩ | ⟨-, rfl⟩ <;> exact hwk
  | some failure =>
    -- the compensation has visited every candidate before the run is closed
    obtain ⟨p, x⟩ := failure
    refine Triple.read_bind rfl rfl (fun _ _ _ _ h => h) (fun i v e h => ⟨_, h⟩) ?_ hstop
    intro _ _ _ _
    refine Triple.read_bind rfl rfl (fun _ _ _ _ h => h) (fun i v e h => refused_of_db h) ?_ hstop
    intro _ _ _ _
    refine Triple.bind (compensate_triple (ha.trans ha1.symm) hin1 h1) ?_
      (by rintro e c' ⟨-, he⟩ e' h; cases h; exact he)
    rintro flag c2 ⟨-, hcomp, hacc2⟩
    refine Triple.call rfl (fun _ _ _ => ⟨hcomp, hacc2⟩) ?_
    intro v hv hwk _ i r v' hq _ heff
    have hw : c2.worker = some pid := hv.worker ▸ hwk
    cases r with
    | error e =>
      obtain ⟨rfl, he⟩ := heff
      exact ⟨c2, hv, hw, hstop e (stopped_of_refused (t := none) (v := v') hq (.inr he))⟩
    | ok _ =>
      refine ⟨_, .core v', ?_, fun _ h => by cases h⟩
      rcases heff with ⟨-, rfl⟩ | ⟨-, status, client, rfl, -⟩ <;> exact hwk

end Saga

end SheepContabil
