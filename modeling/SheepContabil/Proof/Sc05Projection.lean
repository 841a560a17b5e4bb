import SheepContabil.Proof.Sc05Cards
import Mathlib.Data.List.Induction

/-!
# SC-05: the status of a client and the runs of its operations

* `Projected`: one open operation for each client, a partial failure shows, and a
  blocked client has a snapshot.
* `ClientMove.projected`: every move keeps it.
* `run_projected`: it holds after every run that began with active clients and no
  operation, and no operation is created beside an open one.
-/

namespace SheepContabil

open Conc Conc.Prog

variable {W ι : Type}

/-- A run that is queued, running, or waiting to be resumed. -/
def RunStatus.isOpen : RunStatus → Bool
  | .queued | .running | .partiallyFailed => true
  | _ => false

namespace OperationCard

/-- The runs whose client is partial. -/
def Partial (k : OperationCard) : Prop :=
  k.status = .partiallyFailed ∨ (k.status = .queued ∧ 0 < k.resumeCount)

/-- The statuses of a run that was created. -/
def Created (k : OperationCard) : Prop :=
  k.status.isOpen = true ∨ k.status = .succeeded ∨ k.status = .failed

theorem Partial.isOpen {k : OperationCard} (h : k.Partial) : k.status.isOpen = true := by
  rcases h with h | ⟨h, -⟩
  · rw [h]; rfl
  · rw [h]; rfl

end OperationCard

namespace CardMove

variable {k k' : OperationCard} {c c' : SC05Client}

theorem fields (h : CardMove k c k' c') : k'.client = k.client ∧ k'.requestKey = k.requestKey ∧
    k'.action = k.action ∧ k'.module = k.module ∧ k.resumeCount ≤ k'.resumeCount := by
  cases h with
  | resumed => exact ⟨rfl, rfl, rfl, rfl, Nat.le_succ _⟩
  | _ => exact ⟨rfl, rfl, rfl, rfl, Nat.le_refl _⟩

theorem created (h : CardMove k c k' c') (hk : k.Created) : k'.Created := by
  cases h with
  | same => exact hk
  | captured => exact hk
  | closed => exact .inr (.inr rfl)
  | succeeded => exact .inr (.inl rfl)
  | failed => exact .inr (.inr rfl)
  | _ => exact .inl rfl

/-- No run opens again. -/
theorem isOpen (h : CardMove k c k' c') (hk : k.Created) (hopen : k'.status.isOpen = true) :
    k.status.isOpen = true := by
  cases h with
  | same => exact hopen
  | captured => exact hopen
  | started hactive =>
    rcases hk with hk | hk | hk
    · exact hk
    · rw [hk] at hactive; cases hactive
    · rw [hk] at hactive; cases hactive
  | closed => cases hopen
  | returned hq => rw [hq]; rfl
  | quarantined hq => rcases hq with hq | hq <;> (rw [hq]; rfl)
  | resumed hp => rw [hp]; rfl
  | succeeded => cases hopen
  | failed => cases hopen

/-- Only an open run writes its client. -/
theorem client (h : CardMove k c k' c') : c' = c ∨ k.status.isOpen = true := by
  cases h with
  | quarantined hq =>
    refine .inr ?_
    rcases hq with hq | hq <;> (rw [hq]; rfl)
  | succeeded hr => rw [hr]; exact .inr rfl
  | failed hr => rw [hr]; exact .inr rfl
  | _ => exact .inl rfl

theorem partialState (h : CardMove k c k' c') (hp : k.Partial → c.status = .partialState)
    (hp' : k'.Partial) : c'.status = .partialState := by
  cases h with
  | same => exact hp hp'
  | captured => exact hp hp'
  | started => rcases hp' with h' | ⟨h', -⟩ <;> cases h'
  | closed => rcases hp' with h' | ⟨h', -⟩ <;> cases h'
  | returned hq hr => exact hp (.inr ⟨hq, hr⟩)
  | quarantined => rfl
  | resumed hpf => exact hp (.inl hpf)
  | succeeded => rcases hp' with h' | ⟨h', -⟩ <;> cases h'
  | failed => rcases hp' with h' | ⟨h', -⟩ <;> cases h'

/-- An open run leaves the snapshot. -/
theorem kept (h : CardMove k c k' c') (hopen : k'.status.isOpen = true) :
    c'.taskRestoreSnapshot = c.taskRestoreSnapshot := by
  cases h with
  | succeeded => cases hopen
  | _ => rfl

theorem snapshot (h : CardMove k c k' c') (hc : c.status = .blocked → c.taskRestoreSnapshot ≠ [])
    (hu : k.action = .unblock → k.status.isOpen = true → c.taskRestoreSnapshot ≠ [])
    (hc' : c'.status = .blocked) : c'.taskRestoreSnapshot ≠ [] := by
  cases h with
  | quarantined => cases hc'
  | succeeded hr hb =>
    cases ha : k.action with
    | block => simp only [OperationCard.succeededClient, ha]; exact hb ha
    | unblock => simp [OperationCard.succeededClient, ha] at hc'
  | failed hr cs hcs =>
    rcases hcs with rfl | rfl
    · cases hc'
    · cases ha : k.action with
      | block => simp [ha, SC05Action.undoneStatus] at hc'
      | unblock => exact hu ha (by rw [hr]; rfl)
  | _ => exact hc hc'

end CardMove

/-- **The status of a client is that of its open operation.** -/
structure Projected (s : SC05State W) : Prop where
  blank : Blank s
  created : ∀ o < s.operationCount, (s.operations o).card.Created
  keys : ∀ o < s.operationCount, ∀ o' < s.operationCount,
    (s.operations o).card.requestKey = (s.operations o').card.requestKey → o = o'
  single : ∀ o < s.operationCount, ∀ o' < s.operationCount,
    (s.operations o).card.client = (s.operations o').card.client →
    (s.operations o).card.status.isOpen = true → (s.operations o').card.status.isOpen = true → o = o'
  partialState : ∀ o < s.operationCount, (s.operations o).card.Partial →
    (s.clients (s.operations o).card.client).status = .partialState
  unblocking : ∀ o < s.operationCount, (s.operations o).card.action = .unblock →
    (s.operations o).card.status.isOpen = true →
    (s.clients (s.operations o).card.client).taskRestoreSnapshot ≠ []
  snapshot : ∀ c, (s.clients c).status = .blocked → (s.clients c).taskRestoreSnapshot ≠ []

theorem hasActiveOperation_false {s : SC05State W} {c : ClientId}
    (h : s.hasActiveOperation c none = false) {o : OperationId} (ho : o < s.operationCount)
    (hc : (s.operations o).client = c) : (s.operations o).run.status.isActive = false := by
  simp only [SC05State.hasActiveOperation, List.any_eq_false] at h
  have hnot := h o (List.mem_range.2 ho)
  simpa [hc] using hnot

/-- **Every move keeps the projection.** -/
theorem ClientMove.projected {s s' : SC05State W} (hmove : ClientMove s s') (h : Projected s) :
    Projected s' := by
  cases hmove with
  | @operation o k c hmove hexists hcount hcards hclients =>
    obtain ⟨hclient, hkey, haction, hmodule, -⟩ := hmove.fields
    have hself : (s'.operations o).card = k := by rw [hcards, if_pos rfl]
    have hother : ∀ o', o' ≠ o → (s'.operations o').card = (s.operations o').card :=
      fun o' ho => by rw [hcards, if_neg ho]
    -- what an action keeps of every card
    have hkept : ∀ o', (s'.operations o').card.client = (s.operations o').card.client ∧
        (s'.operations o').card.requestKey = (s.operations o').card.requestKey ∧
        (s'.operations o').card.action = (s.operations o').card.action ∧
        (s'.operations o').card.module = (s.operations o').card.module := by
      intro o'
      by_cases ho : o' = o
      · subst ho; rw [hself]; exact ⟨hclient, hkey, haction, hmodule⟩
      · rw [hother o' ho]; exact ⟨rfl, rfl, rfl, rfl⟩
    have hcreated : ∀ o', o' < s.operationCount → (s'.operations o').card.Created := by
      intro o' ho'
      by_cases ho : o' = o
      · subst ho; rw [hself]; exact hmove.created (h.created o' ho')
      · rw [hother o' ho]; exact h.created o' ho'
    have hopen : ∀ o', o' < s.operationCount → (s'.operations o').card.status.isOpen = true →
        (s.operations o').card.status.isOpen = true := by
      intro o' ho'
      by_cases ho : o' = o
      · subst ho; rw [hself]; exact hmove.isOpen (h.created o' ho')
      · rw [hother o' ho]; exact id
    -- another open operation has another client, or the client is not written
    have hforeign : ∀ o', o' < s.operationCount → o' ≠ o →
        (s.operations o').card.status.isOpen = true →
        s'.clients (s.operations o').card.client = s.clients (s.operations o').card.client := by
      intro o' ho' hne ho'open
      rw [hclients]
      by_cases hc : (s.operations o').card.client = (s.operations o).client
      · rcases hmove.client with rfl | hoopen
        · rw [Function.update_eq_self]
        · have hlt : o < s.operationCount := by
            refine h.blank.exists fun hp => ?_
            have hst : (s.operations o).card.status = .pending := hp
            rw [hst] at hoopen; cases hoopen
          exact absurd (h.single o' ho' o hlt hc ho'open hoopen) hne
      · rw [Function.update_of_ne hc]
    have hown : s'.clients (s.operations o).card.client = c := by
      rw [hclients]; exact Function.update_self ..
    refine ⟨⟨?_, ?_⟩, ?_, ?_, ?_, ?_, ?_, ?_⟩
    · intro o' ho'
      rw [hcount] at ho'
      have hst : (s.operations o').card.status = .pending := h.blank.pending o' ho'
      by_cases ho : o' = o
      · subst ho
        show (s'.operations o').card.status = .pending
        rw [hself]
        rcases hexists with hlt | hsame | hsame
        · exact absurd hlt (Nat.not_lt.2 ho')
        · rw [hsame]; exact hst
        · rw [hsame]; exact hst
      · show (s'.operations o').card.status = .pending
        rw [hother o' ho]; exact hst
    · intro o'
      exact (hkept o').2.2.2.trans (h.blank.module o')
    · intro o' ho'; exact hcreated o' (hcount ▸ ho')
    · intro o₁ h₁ o₂ h₂ heq
      rw [(hkept o₁).2.1, (hkept o₂).2.1] at heq
      exact h.keys o₁ (hcount ▸ h₁) o₂ (hcount ▸ h₂) heq
    · intro o₁ h₁ o₂ h₂ heq hopen₁ hopen₂
      rw [(hkept o₁).1, (hkept o₂).1] at heq
      exact h.single o₁ (hcount ▸ h₁) o₂ (hcount ▸ h₂) heq (hopen o₁ (hcount ▸ h₁) hopen₁)
        (hopen o₂ (hcount ▸ h₂) hopen₂)
    · intro o' ho' hp
      rw [hcount] at ho'
      rw [(hkept o').1]
      by_cases ho : o' = o
      · subst ho
        rw [hself] at hp
        rw [hown]
        exact hmove.partialState (h.partialState o' ho') hp
      · rw [hother o' ho] at hp
        rw [hforeign o' ho' ho hp.isOpen]
        exact h.partialState o' ho' hp
    · intro o' ho' ha hop
      rw [hcount] at ho'
      rw [(hkept o').2.2.1] at ha
      have hop' := hopen o' ho' hop
      rw [(hkept o').1]
      by_cases ho : o' = o
      · subst ho
        rw [hself] at hop
        rw [hown, hmove.kept hop]
        exact h.unblocking o' ho' ha hop'
      · rw [hforeign o' ho' ho hop']
        exact h.unblocking o' ho' ha hop'
    · intro d hd
      by_cases hdc : d = (s.operations o).card.client
      · subst hdc
        rw [hown] at hd ⊢
        refine hmove.snapshot (h.snapshot _) ?_ hd
        intro ha hop
        have hlt : o < s.operationCount := by
          refine h.blank.exists fun hp => ?_
          have hst : (s.operations o).card.status = .pending := hp
          rw [hst] at hop; cases hop
        exact h.unblocking o hlt ha hop
      · have hsame : s'.clients d = s.clients d := by
          rw [hclients]; exact Function.update_of_ne hdc ..
        rw [hsame] at hd ⊢
        exact h.snapshot d hd
  | created c action requestKey hkey hstatus hsnapshot hactive hcount hcards hclients =>
    have hself : (s'.operations s.operationCount).card =
        ⟨c, requestKey, action, 0, .sc05, .queued, []⟩ := by rw [hcards, if_pos rfl]
    have hother : ∀ o, o < s.operationCount → (s'.operations o).card = (s.operations o).card :=
      fun o ho => by rw [hcards, if_neg (Nat.ne_of_lt ho)]
    have hcases : ∀ o, o < s'.operationCount → o < s.operationCount ∨ o = s.operationCount := by
      intro o ho
      rw [hcount] at ho
      exact Nat.lt_succ_iff_lt_or_eq.1 ho
    -- no operation of the client is open
    have hclosed : ∀ o, o < s.operationCount → (s.operations o).card.client = c →
        (s.operations o).card.status.isOpen = false := by
      intro o ho hc
      have hna := hasActiveOperation_false hactive ho hc
      have hnp : (s.operations o).card.status ≠ .partiallyFailed := by
        intro hp
        have := h.partialState o ho (.inl hp)
        rw [hc] at this
        exact hstatus this
      have hst : (s.operations o).card.status.isActive = false := hna
      rcases h.created o ho with hopen | hopen | hopen
      · cases hcase : (s.operations o).card.status <;>
          simp_all [RunStatus.isActive, RunStatus.isOpen]
      · rw [hopen]; rfl
      · rw [hopen]; rfl
    refine ⟨⟨?_, ?_⟩, ?_, ?_, ?_, ?_, ?_, ?_⟩
    · intro o ho
      rw [hcount] at ho
      have hne : o ≠ s.operationCount := Nat.ne_of_gt ho
      show (s'.operations o).card.status = .pending
      rw [hcards, if_neg hne]
      exact h.blank.pending o (Nat.le_of_succ_le ho)
    · intro o
      show (s'.operations o).card.module = .sc05
      rw [hcards]
      split
      · rfl
      · exact h.blank.module o
    · intro o ho
      rcases hcases o ho with ho | rfl
      · rw [hother o ho]; exact h.created o ho
      · rw [hself]; exact .inl rfl
    · intro o₁ h₁ o₂ h₂ heq
      rcases hcases o₁ h₁ with h₁ | rfl <;> rcases hcases o₂ h₂ with h₂ | rfl
      · rw [hother o₁ h₁, hother o₂ h₂] at heq
        exact h.keys o₁ h₁ o₂ h₂ heq
      · rw [hother o₁ h₁, hself] at heq
        exact absurd heq (hkey o₁ h₁)
      · rw [hself, hother o₂ h₂] at heq
        exact absurd heq.symm (hkey o₂ h₂)
      · rfl
    · intro o₁ h₁ o₂ h₂ heq hopen₁ hopen₂
      rcases hcases o₁ h₁ with h₁ | rfl <;> rcases hcases o₂ h₂ with h₂ | rfl
      · rw [hother o₁ h₁, hother o₂ h₂] at heq
        rw [hother o₁ h₁] at hopen₁
        rw [hother o₂ h₂] at hopen₂
        exact h.single o₁ h₁ o₂ h₂ heq hopen₁ hopen₂
      · rw [hother o₁ h₁, hself] at heq
        rw [hother o₁ h₁, hclosed o₁ h₁ heq] at hopen₁
        cases hopen₁
      · rw [hself, hother o₂ h₂] at heq
        rw [hother o₂ h₂, hclosed o₂ h₂ heq.symm] at hopen₂
        cases hopen₂
      · rfl
    · intro o ho hp
      rcases hcases o ho with ho | rfl
      · rw [hother o ho] at hp ⊢
        rw [hclients]; exact h.partialState o ho hp
      · rw [hself] at hp
        rcases hp with hp | ⟨-, hp⟩
        · cases hp
        · exact absurd hp (Nat.lt_irrefl 0)
    · intro o ho ha hop
      rcases hcases o ho with ho | rfl
      · rw [hother o ho] at ha hop ⊢
        rw [hclients]; exact h.unblocking o ho ha hop
      · rw [hself] at ha ⊢
        rw [hclients]; exact hsnapshot ha
    · intro d hd
      rw [hclients] at hd ⊢
      exact h.snapshot d hd

/-- What every move leaves to the operations that exist. -/
structure Grown (s s' : SC05State W) : Prop where
  count : s.operationCount ≤ s'.operationCount
  action : ∀ o < s.operationCount, (s'.operations o).action = (s.operations o).action
  resumeCount : ∀ o < s.operationCount, (s.operations o).resumeCount ≤ (s'.operations o).resumeCount
  captured : ∀ o < s.operationCount, (s.operations o).action = .block →
    ((s.operations o).steps .tasks).beforeState ≠ [] →
    ((s'.operations o).steps .tasks).beforeState ≠ []

theorem Grown.refl (s : SC05State W) : Grown s s :=
  ⟨Nat.le_refl _, fun _ _ => rfl, fun _ _ => Nat.le_refl _, fun _ _ _ h => h⟩

theorem Grown.trans {a b c : SC05State W} (h : Grown a b) (h' : Grown b c) : Grown a c := by
  have hlt : ∀ o < a.operationCount, o < b.operationCount :=
    fun o ho => Nat.lt_of_lt_of_le ho h.count
  refine ⟨Nat.le_trans h.count h'.count, ?_, ?_, ?_⟩
  · intro o ho; exact (h'.action o (hlt o ho)).trans (h.action o ho)
  · intro o ho; exact Nat.le_trans (h.resumeCount o ho) (h'.resumeCount o (hlt o ho))
  · intro o ho ha hb
    exact h'.captured o (hlt o ho) ((h.action o ho).trans ha) (h.captured o ho ha hb)

/-- A captured state of the tasks to block is never emptied. -/
theorem CardMove.capturedKept {k k' : OperationCard} {c c' : SC05Client} (h : CardMove k c k' c')
    (ha : k.action = .block) (hb : k.captured ≠ []) : k'.captured ≠ [] := by
  cases h with
  | captured b hb' => exact hb' ha
  | _ => exact hb

theorem ClientMove.grown {s s' : SC05State W} (h : ClientMove s s') : Grown s s' := by
  cases h with
  | @operation o k c hmove hexists hcount hcards hclients =>
    have hcases : ∀ o', (s'.operations o').card = (s.operations o').card ∨
        o' = o ∧ (s'.operations o').card = k := by
      intro o'
      by_cases ho : o' = o
      · exact .inr ⟨ho, by rw [hcards, if_pos ho]⟩
      · exact .inl (by rw [hcards, if_neg ho])
    refine ⟨Nat.le_of_eq hcount.symm, ?_, ?_, ?_⟩
    · intro o' _
      show (s'.operations o').card.action = (s.operations o').card.action
      rcases hcases o' with heq | ⟨rfl, heq⟩
      · rw [heq]
      · rw [heq]; exact hmove.fields.2.2.1
    · intro o' _
      show (s.operations o').card.resumeCount ≤ (s'.operations o').card.resumeCount
      rcases hcases o' with heq | ⟨rfl, heq⟩
      · rw [heq]
      · rw [heq]; exact hmove.fields.2.2.2.2
    · intro o' _ ha hb
      show (s'.operations o').card.captured ≠ []
      rcases hcases o' with heq | ⟨rfl, heq⟩
      · rw [heq]; exact hb
      · rw [heq]; exact hmove.capturedKept ha hb
  | created c action requestKey hkey hstatus hsnapshot hactive hcount hcards hclients =>
    have hother : ∀ o < s.operationCount, (s'.operations o).card = (s.operations o).card :=
      fun o ho => by rw [hcards, if_neg (Nat.ne_of_lt ho)]
    refine ⟨by rw [hcount]; exact Nat.le_succ _, ?_, ?_, ?_⟩
    · intro o ho; exact congrArg OperationCard.action (hother o ho)
    · intro o ho; exact Nat.le_of_eq (congrArg OperationCard.resumeCount (hother o ho)).symm
    · intro o ho _ hb
      show (s'.operations o).card.captured ≠ []
      rw [hother o ho]; exact hb

/-- The contract of the processes: the projection, and what each knows when it acts. -/
def projectionOutline (W ι : Type) :
    Outline SC05Label SC05Exception (SC05State W) (Fate ι) SC05Process (W → W) where
  inv := Projected
  rely _ := Grown
  pre _ := cardPre
  ok _ _ _ := True
  post _ _ _ _ := True

section Programs

variable {portal : PortalBackend W ι} {settings : Settings} {pid : ℕ} {operation : LoadedOperation}

/-- The weakest precondition of the processes. -/
abbrev projectionWp {α : Type} (portal : PortalBackend W ι) (settings : Settings) (pid : ℕ)
    (p : SC05Prog α) (Q : Except SC05Exception α → SC05State W → Prop) (s : SC05State W) : Prop :=
  wp ((projectionOutline W ι).contract (sc05System portal settings)) pid p Q s

theorem cardPre_of_plain {l : SC05Label} {s : SC05State W} (hl : l.isPlain = true) : cardPre l s := by
  cases l with
  | saveStep o p u =>
    intro b hb
    rw [SC05Label.isPlain, hb] at hl; cases hl
  | finishSucceeded => cases hl
  | recordDispatchFailure o t status exc => exact .inl (by simpa [SC05Label.isPlain] using hl)
  | _ => trivial

theorem sem_grown {l : SC05Label} {i : Fate ι} {s : SC05State W} (h : Projected s)
    (hpre : cardPre l s) : Grown s (SC05State.sem portal settings pid l i s).2 :=
  (sem_clientMove portal settings pid l i h.blank hpre).grown

/-- A plain program keeps what grown states keep. -/
theorem plain_keeps {α : Type} {J : SC05State W → Prop} (hJ : ∀ s s', J s → Grown s s' → J s')
    {p : SC05Prog α} (hp : p.Within fun l => l.isPlain = true) {s : SC05State W} (hs : J s) :
    projectionWp portal settings pid p (fun _ s => J s) s := by
  refine wp_within_keeps hJ ?_ hp hs
  intro l s hl hs hi
  refine ⟨cardPre_of_plain hl, ?_⟩
  rintro r s' ⟨i, -, hsem⟩
  change SC05State.sem portal settings pid l i s = (r, s') at hsem
  have hgrown : Grown s (SC05State.sem portal settings pid l i s).2 :=
    sem_grown hi (cardPre_of_plain hl)
  rw [hsem] at hgrown
  exact hJ s s' hs hgrown

/-- The worker serves this operation, and the state of its tasks is captured if `B`. -/
structure Serving (operation : LoadedOperation) (B : Prop) (s : SC05State W) : Prop where
  lt : operation.id < s.operationCount
  action : (s.operations operation.id).action = operation.op.action
  captured : B → operation.op.action = .block →
    ((s.operations operation.id).steps .tasks).beforeState ≠ []

theorem Serving.grown {B : Prop} {s s' : SC05State W} (h : Serving operation B s)
    (hg : Grown s s') : Serving operation B s' := by
  refine ⟨Nat.lt_of_lt_of_le h.lt hg.count, (hg.action _ h.lt).trans h.action, ?_⟩
  intro hB ha
  exact hg.captured _ h.lt (h.action.trans ha) (h.captured hB ha)

/-- What holds when a program returns. -/
def OnOk {α : Type} (Q : α → SC05State W → Prop) (r : Except SC05Exception α)
    (s : SC05State W) : Prop :=
  ∀ a, r = .ok a → Q a s

/-- A plain part of a program that serves an operation. -/
theorem serves_bind {α β : Type} {B : Prop} {p : SC05Prog α} {k : α → SC05Prog β}
    {Q : β → SC05State W → Prop} {s : SC05State W} (hp : p.Within (Serves operation))
    (hs : Serving operation B s)
    (hk : ∀ a s', Serving operation B s' → projectionWp portal settings pid (k a) (OnOk Q) s') :
    projectionWp portal settings pid (p.bind k) (OnOk Q) s := by
  refine wp_bind (wp_mono ?_
    (plain_keeps (fun _ _ h hg => h.grown hg) (within_mono (fun _ h => h.2) hp) hs))
  rintro (e | a) s' hs'
  · intro b hb; cases hb
  · exact hk a s' hs'

/-- The last plain part of a program. -/
theorem serves_end {α : Type} {B : Prop} {p : SC05Prog α} {Q : α → SC05State W → Prop}
    {s : SC05State W} (hp : p.Within (Serves operation)) (hs : Serving operation B s)
    (hQ : ∀ a s', Serving operation B s' → Q a s') :
    projectionWp portal settings pid p (OnOk Q) s := by
  refine wp_mono ?_
    (plain_keeps (fun _ _ h hg => h.grown hg) (within_mono (fun _ h => h.2) hp) hs)
  rintro r s' hs' a -
  exact hQ a s' hs'

/-- A first observation of the tasks to block is not empty. -/
theorem validateInitialState_ok {observed : PortalState}
    (h : validateInitialState .block .tasks observed = .ok ()) : observed ≠ [] := by
  rintro rfl
  cases h

/-- **A step of the tasks to block is applied with a captured state.** -/
theorem applyStep_serving {B : Prop} (p : SC05Portal) (step : SC05PortalStep) {s : SC05State W}
    (hs : Serving operation B s) :
    projectionWp portal settings pid (applyStep operation p step)
      (OnOk fun _ => Serving operation (B ∨ p = .tasks)) s := by
  unfold applyStep
  refine serves_bind (within_call.2 ⟨⟨rfl, trivial⟩, rfl⟩) hs fun _ s1 hs1 => ?_
  refine serves_bind (within_call.2 ⟨⟨rfl, trivial⟩, rfl⟩) hs1 fun _ s2 hs2 => ?_
  refine serves_bind (invoke_within ..) hs2 fun observed s3 hs3 => ?_
  refine serves_bind (within_call.2 ⟨⟨rfl, trivial⟩, rfl⟩) hs3 fun _ s4 hs4 => ?_
  -- what is captured is not empty once the first observation is checked
  have hcheck : projectionWp portal settings pid
      (checkFirstObservation operation p step observed.state)
      (OnOk fun _ s => Serving operation B s ∧ (p = .tasks → operation.op.action = .block →
        step.captured observed.state ≠ [])) s4 := by
    unfold checkFirstObservation SC05PortalStep.captured
    split
    · next hempty =>
      cases hvalid : validateInitialState operation.op.action p observed.state with
      | error e => intro u hu; cases hu
      | ok u =>
        intro u' _
        refine ⟨hs4, ?_⟩
        rintro rfl ha
        rw [ha] at hvalid
        exact validateInitialState_ok hvalid
    · next hne =>
      intro u _
      refine ⟨hs4, fun _ _ hnil => hne ?_⟩
      rw [hnil]; rfl
  refine wp_bind (wp_mono ?_ hcheck)
  rintro (e | u) s5 h5
  · intro x hx; cases hx
  obtain ⟨hs5, hcaptured⟩ := h5 u rfl
  refine serves_bind (stepDesiredState_within ..) hs5 fun desired s6 hs6 => ?_
  refine wp_bind (wp_call fun s7 hr7 hi7 => ?_)
  have hs7 := hs6.grown hr7
  have hpre : cardPre (.saveStep operation.id p
      { beforeState := some (step.captured observed.state), desiredState := some desired
        afterState := some observed.state }) s7 := by
    rintro b hb rfl ha
    obtain rfl := Option.some.inj hb
    exact hcaptured rfl (hs7.action.symm.trans ha)
  refine ⟨hpre, ?_⟩
  rintro r s8 ⟨i, -, hsem⟩
  change SC05State.sem portal settings pid (.saveStep operation.id p _) i s7 = (r, s8) at hsem
  have hs8 : Serving operation B s8 := by
    have hgrown : Grown s7 (SC05State.sem portal settings pid (.saveStep operation.id p _) i s7).2 :=
      sem_grown hi7 hpre
    rw [hsem] at hgrown
    exact hs7.grown hgrown
  cases r with
  | error e => intro x hx; cases hx
  | ok u =>
    refine serves_end (B := B ∨ p = .tasks) (settleStep_within ..) ⟨hs8.lt, hs8.action, ?_⟩
      fun _ _ h => h
    rintro (hB | rfl) ha
    · exact hs8.captured hB ha
    · simp only [SC05State.sem, transaction] at hsem
      split at hsem
      · cases hsem
      · obtain ⟨-, rfl⟩ := Prod.mk.inj hsem
        simp only [SC05State.saveStep, setOperation_operations, if_true, SC05Operation.setStep,
          Function.update_self, Option.getD_some]
        exact hcaptured rfl ha

theorem applySteps_serving : ∀ (rows : List (SC05Portal × SC05PortalStep)) {B : Prop}
    {s : SC05State W}, Serving operation B s →
    projectionWp portal settings pid (applySteps operation rows) (OnOk fun failure s =>
      failure = none → Serving operation (B ∨ .tasks ∈ rows.map Prod.fst) s) s
  | [], B, s, hs => by
    intro failure _ _
    exact ⟨hs.lt, hs.action, fun hB => hs.captured (by simpa using hB)⟩
  | (p, step) :: rest, B, s, hs => by
    unfold applySteps
    refine serves_bind (within_call.2 ⟨⟨rfl, trivial⟩, rfl⟩) hs fun _ s1 hs1 => ?_
    refine serves_bind (within_call.2 ⟨⟨rfl, trivial⟩, rfl⟩) hs1 fun _ s2 hs2 => ?_
    refine wp_bind (wp_attempt (wp_mono ?_ (applyStep_serving p step hs2)))
    rintro (e | u) s3 h3
    · cases e with
      | sc05 x =>
        refine wp_bind (wp_mono ?_ (plain_keeps (J := fun _ => True) (fun _ _ _ _ => trivial)
          (within_call.2 rfl) trivial))
        rintro (e | v) s4 -
        · intro failure hf; cases hf
        · intro failure hf hnone
          rw [← Except.ok.inj hf] at hnone
          cases hnone
      | _ => intro failure hf; cases hf
    · refine wp_mono ?_ (applySteps_serving rest (h3 u rfl))
      intro r s4 h4 failure hf hnone
      obtain ⟨hlt, haction, hcaptured⟩ := h4 failure hf hnone
      refine ⟨hlt, haction, fun hB => hcaptured ?_⟩
      rcases hB with hB | hB
      · exact .inl (.inl hB)
      · rcases List.mem_cons.1 hB with rfl | hB
        · exact .inl (.inr rfl)
        · exact .inr hB

/-- The steps of an operation, in its order, include the one of the tasks. -/
theorem tasks_mem_orderedSteps (op : SC05Operation) :
    SC05Portal.tasks ∈ op.orderedSteps.map Prod.fst := by
  cases h : op.action <;> simp [SC05Operation.orderedSteps, h, SC05Action.order]

/-- **A run succeeds only with the tasks to block captured.** -/
theorem runSaga_serving {s : SC05State W} (hs : Serving operation False s) :
    projectionWp portal settings pid (runSaga operation) (fun _ _ => True) s := by
  have hdone : ∀ {Q : Except SC05Exception Unit → SC05State W → Prop} {p : SC05Prog Unit} {s},
      projectionWp portal settings pid p (OnOk fun _ _ => True) s →
      (∀ r s, Q r s) → projectionWp portal settings pid p Q s :=
    fun hp hQ => wp_mono (fun r s _ => hQ r s) hp
  refine hdone ?_ fun _ _ => trivial
  unfold runSaga
  refine serves_bind (within_call.2 ⟨⟨rfl, trivial⟩, rfl⟩) hs fun _ s1 hs1 => ?_
  refine serves_bind (within_call.2 ⟨⟨rfl, trivial⟩, rfl⟩) hs1 fun _ s2 hs2 => ?_
  refine wp_bind (wp_call fun s3 hr3 hi3 => ⟨trivial, ?_⟩)
  have hs3 := hs2.grown hr3
  rintro r s4 ⟨i, -, hsem⟩
  change SC05State.sem portal settings pid (.loadSteps operation.id) i s3 = (r, s4) at hsem
  have hs4 : Serving operation False s4 := by
    have hgrown : Grown s3 (SC05State.sem portal settings pid (.loadSteps operation.id) i s3).2 :=
      sem_grown hi3 trivial
    rw [hsem] at hgrown
    exact hs3.grown hgrown
  cases r with
  | error e => intro x hx; cases hx
  | ok rows =>
    have hrows : SC05Portal.tasks ∈ rows.map Prod.fst := by
      simp only [SC05State.sem, transaction] at hsem
      split at hsem
      · cases hsem
      · obtain ⟨hrows, -⟩ := Prod.mk.inj hsem
        rw [← Except.ok.inj hrows]
        exact tasks_mem_orderedSteps _
    refine wp_bind (wp_mono ?_ (applySteps_serving rows hs4))
    rintro (e | failure) s5 h5
    · intro x hx; cases hx
    cases failure with
    | some failed =>
      obtain ⟨portal', e⟩ := failed
      refine wp_mono ?_ (plain_keeps (J := fun _ => True) (fun _ _ _ _ => trivial) ?_ trivial)
      · intro _ _ _ _ _; trivial
      · exact within_call_bind rfl fun _ => within_call_bind rfl fun _ =>
          within_bind (within_mono (fun _ h => h.2) (compensate_within _)) fun _ =>
          within_call.2 rfl
    | none =>
      -- no step has failed, so the step of the tasks has captured them
      have hs5 := h5 none rfl rfl
      refine serves_bind (within_call.2 ⟨⟨rfl, trivial⟩, rfl⟩) hs5 fun _ s6 hs6 => ?_
      refine wp_call fun s7 hr7 hi7 => ⟨?_, fun _ _ _ _ _ => trivial⟩
      have hs7 := hs6.grown hr7
      intro ha
      exact hs7.captured (.inr hrows) (hs7.action.symm.trans ha)

/-- A plain program needs to know nothing. -/
theorem plain_wp {α : Type} {p : SC05Prog α} (hp : p.Within fun l => l.isPlain = true)
    {Q : Except SC05Exception α → SC05State W → Prop} (hQ : ∀ r s, Q r s) {s : SC05State W} :
    projectionWp portal settings pid p Q s :=
  wp_within (fun _ _ hl => cardPre_of_plain hl) hp hQ

theorem deliver_projection (o : OperationId) (t : SuppliedTaskId) (b : Bool) (s : SC05State W) :
    projectionWp portal settings pid (deliver o t b) (fun _ _ => True) s := by
  refine wp_tryFinally (wp_mono (Q := fun _ _ => True) (fun r s _ => plain_wp (within_call.2 rfl)
    (by rintro (e | a) s <;> trivial)) ?_)
  refine wp_bind (wp_mono (Q := fun _ _ => True) (by rintro (e | a) s - <;> trivial) ?_)
  refine wp_bind (wp_call fun s1 _ hi => ⟨trivial, ?_⟩)
  rintro r s2 ⟨i, -, hsem⟩
  change SC05State.sem portal settings pid (.prepareOperation o t b) i s1 = (r, s2) at hsem
  rcases r with e | ⟨⟨op, client⟩, should⟩
  · trivial
  cases should with
  | false => exact plain_wp (within_call.2 rfl) fun _ _ => trivial
  | true =>
    have hserving : Serving ⟨o, op, client⟩ False s2 := by
      simp only [SC05State.sem, transaction] at hsem
      split at hsem
      · cases hsem
      unfold SC05State.prepareOperation at hsem
      split at hsem
      · cases hsem
      next hlt =>
      simp only at hsem
      split at hsem
      · cases hsem
      · cases hsem
      · next op' hprep =>
        obtain ⟨hresult, rfl⟩ := Prod.mk.inj hsem
        obtain ⟨rfl, -⟩ : op' = op ∧ _ := by simpa using hresult
        refine ⟨Nat.lt_of_not_le hlt, ?_, False.elim⟩
        show ((s1.setOperation o op').operations o).action = op'.action
        rw [setOperation_operations, if_pos rfl]
    refine wp_bind (wp_mono (Q := fun _ _ => True) ?_ (wp_tryCatch (wp_mono ?_
      (runSaga_serving hserving))))
    · rintro (e | a) s -
      · trivial
      · exact plain_wp (within_call.2 rfl) fun _ _ => trivial
    · rintro (e | a) s -
      · exact plain_wp (within_mono (fun _ h => h.2) (handleFailure_within _ _)) fun _ _ => trivial
      · trivial

/-- A publication that fails is reported with the status it is called with. -/
theorem dispatchRun_reports (o : OperationId) (status : RunStatus) :
    (dispatchRun o status).Within fun l =>
      l.isPlain = true ∨ ∃ t exc, l = .recordDispatchFailure o t status exc := by
  unfold dispatchRun
  refine within_call_bind (.inl rfl) fun r => ?_
  split
  · trivial
  · trivial
  · refine within_bind (within_tryCatch (within_call.2 (.inl rfl)) fun e => ?_) fun _ =>
      within_call.2 (.inl rfl)
    exact within_call_bind (.inr ⟨_, _, rfl⟩) fun _ => trivial

theorem createAndDispatch_plain (c : ClientId) (action : SC05Action) (scenario : SC05Scenario)
    (key : ℕ) : (createAndDispatch c action scenario key).Within fun l => l.isPlain = true := by
  refine within_call_bind rfl fun r => ?_
  obtain ⟨o, created⟩ := r
  show Prog.Within _ (if created = true then _ else _)
  split
  · refine within_tryCatch (within_mono ?_ (dispatchRun_reports o .failed)) fun _ => trivial
    rintro l (hl | ⟨t, exc, rfl⟩)
    · exact hl
    · rfl
  · trivial

theorem reconcile_plain (o : OperationId) (now : ℕ) :
    (reconcile o now).Within fun l => l.isPlain = true := by
  refine within_bind (within_attempt (within_call.2 rfl)) fun r => ?_
  split
  · exact within_call.2 rfl
  · exact within_tryCatch (within_call_bind rfl fun _ => within_call.2 rfl)
      fun _ => within_call.2 rfl
  · trivial

/-- The publication of a resumed run. -/
theorem resumeAndDispatch_projection (o : OperationId) (s : SC05State W) :
    projectionWp portal settings pid (resumeAndDispatch o) (fun _ _ => True) s := by
  refine wp_bind (wp_call fun s1 _ hi1 => ⟨trivial, ?_⟩)
  rintro r s2 ⟨i, -, hsem⟩
  change SC05State.sem portal settings pid (.resumeRun o) i s1 = (r, s2) at hsem
  rcases r with e | u
  · trivial
  have hresumed : o < s2.operationCount ∧ 0 < (s2.operations o).resumeCount := by
    simp only [SC05State.sem, transaction] at hsem
    split at hsem
    · cases hsem
    unfold SC05State.resumeRun at hsem
    simp only at hsem
    split_ifs at hsem with hcount hstatus hactive
    · cases hsem
    · cases hsem
    · cases hsem
    obtain ⟨-, rfl⟩ := Prod.mk.inj hsem
    refine ⟨Nat.lt_of_not_le hcount, ?_⟩
    show 0 < ((s1.setOperation o _).operations o).resumeCount
    rw [setOperation_operations, if_pos rfl]
    exact Nat.succ_pos _
  have hstable : ∀ s s' : SC05State W, o < s.operationCount ∧ 0 < (s.operations o).resumeCount →
      Grown s s' → o < s'.operationCount ∧ 0 < (s'.operations o).resumeCount :=
    fun s s' h hg => ⟨Nat.lt_of_lt_of_le h.1 hg.count,
      Nat.lt_of_lt_of_le h.2 (hg.resumeCount o h.1)⟩
  refine wp_tryCatch (wp_mono ?_ (wp_within_keeps hstable ?_
    (dispatchRun_reports o .partiallyFailed) hresumed))
  · rintro (e | a) s -
    · trivial
    · trivial
  · intro l s hl hs hi
    have hpre : cardPre l s := by
      rcases hl with hl | ⟨t, exc, rfl⟩
      · exact cardPre_of_plain hl
      · exact .inr ⟨rfl, hs.2⟩
    refine ⟨hpre, ?_⟩
    rintro r s' ⟨i, -, hsem⟩
    change SC05State.sem portal settings pid l i s = (r, s') at hsem
    have hgrown : Grown s (SC05State.sem portal settings pid l i s).2 := sem_grown hi hpre
    rw [hsem] at hgrown
    exact hstable s s' hs hgrown

end Programs

/-- **The outline is sound.** -/
theorem projection_sound (portal : PortalBackend W ι) (settings : Settings) :
    (projectionOutline W ι).Sound (sc05System portal settings) where
  refl _ := Grown.refl
  trans _ _ _ _ := Grown.trans
  post _ _ _ _ _ _ _ _ := trivial
  start pid k s _ := by
    cases k with
    | createAndDispatch c action scenario key =>
      exact plain_wp (createAndDispatch_plain c action scenario key) fun _ _ => trivial
    | resumeAndDispatch o => exact resumeAndDispatch_projection o s
    | deliver o t b => exact deliver_projection o t b s
    | reconcile o now => exact plain_wp (reconcile_plain o now) fun _ _ => trivial
  act pid l i s hi hpre _ := by
    have hmove : ClientMove s (SC05State.sem portal settings pid l i s).2 :=
      sem_clientMove portal settings pid l i hi.blank hpre
    exact ⟨hmove.projected hi, fun _ _ => hmove.grown⟩
  crash pid s hi _ := by
    have hmove : ClientMove s ((sc05System portal settings).onCrash pid s) :=
      .quiet rfl (fun _ => rfl) rfl
    exact ⟨hmove.projected hi, fun _ _ => hmove.grown⟩
  env e s hi _ := by
    have hmove : ClientMove s ((sc05System portal settings).env e s) :=
      .quiet rfl (fun _ => rfl) rfl
    exact ⟨hmove.projected hi, fun _ _ => hmove.grown⟩

section Runs

variable {portal : PortalBackend W ι} {settings : Settings} {s : SC05State W}

/-- Every client is active, and there is no operation. -/
structure SC05State.Untouched (s : SC05State W) : Prop where
  count : s.operationCount = 0
  blank : Blank s
  active : ∀ c, (s.clients c).status = .active

theorem SC05State.Untouched.projected (h : s.Untouched) : Projected s := by
  have hnone : ∀ o, ¬ o < s.operationCount := by
    intro o ho
    rw [h.count] at ho
    exact Nat.not_lt_zero o ho
  refine ⟨h.blank, fun o ho => absurd ho (hnone o), fun o ho => absurd ho (hnone o),
    fun o ho => absurd ho (hnone o), fun o ho => absurd ho (hnone o),
    fun o ho => absurd ho (hnone o), ?_⟩
  intro c hc
  rw [h.active c] at hc; cases hc

/-- The runs of the SC-05 processes. -/
abbrev SC05Choice (W ι : Type) := Choice (Fate ι) SC05Process (W → W)

/-- The state after a run. -/
def sc05After (portal : PortalBackend W ι) (settings : Settings) (s : SC05State W)
    (xs : List (SC05Choice W ι)) : SC05State W :=
  ((sc05System portal settings).run (Config.idle s) xs).shared

theorem run_holds_projection (hs : s.Untouched) (xs : List (SC05Choice W ι)) :
    (projectionOutline W ι).Holds (sc05System portal settings)
      ((sc05System portal settings).run (Config.idle s) xs) :=
  Outline.Holds.run (projection_sound portal settings)
    (Outline.holds_idle _ _ hs.projected) (System.RunOk.of_forall (fun _ _ => trivial) xs _)

/-- One more choice is a move of the cards. -/
theorem next_clientMove (hs : s.Untouched) (xs : List (SC05Choice W ι)) (x : SC05Choice W ι) :
    ClientMove (sc05After portal settings s xs) (sc05After portal settings s (xs ++ [x])) := by
  have hholds : (projectionOutline W ι).Holds (sc05System portal settings)
      ((sc05System portal settings).run (Config.idle s) xs) := run_holds_projection hs xs
  have hnext : sc05After portal settings s (xs ++ [x]) = ((sc05System portal settings).next
      ((sc05System portal settings).run (Config.idle s) xs) x).shared := by
    rw [sc05After, System.run_append]; rfl
  rw [hnext, System.next_shared]
  cases hm : ((sc05System portal settings).run (Config.idle s) xs).move? x with
  | none => exact .refl _
  | some m =>
    cases m with
    | act pid l i =>
      exact sem_clientMove portal settings pid l i hholds.1.blank
        (hholds.pre_of_move (projection_sound portal settings) hm)
    | crash pid => exact .quiet rfl (fun _ => rfl) rfl
    | env e => exact .quiet rfl (fun _ => rfl) rfl

/-- **Mutual exclusion and the projection**, in one state. -/
structure ClientsProjected (s : SC05State W) : Prop where
  requestKeys : ∀ o < s.operationCount, ∀ o' < s.operationCount,
    (s.operations o).requestKey = (s.operations o').requestKey → o = o'
  single : ∀ o < s.operationCount, ∀ o' < s.operationCount,
    (s.operations o).client = (s.operations o').client →
    ((s.operations o).run.status = .queued ∨ (s.operations o).run.status = .running) →
    ((s.operations o').run.status = .queued ∨ (s.operations o').run.status = .running) → o = o'
  partialState : ∀ o < s.operationCount, (s.operations o).run.status = .partiallyFailed →
    (s.clients (s.operations o).client).status = .partialState
  snapshot : ∀ c, (s.clients c).status = .blocked → (s.clients c).taskRestoreSnapshot ≠ []

theorem Projected.clients (h : Projected s) : ClientsProjected s := by
  have hopen : ∀ st : RunStatus, st = .queued ∨ st = .running → st.isOpen = true := by
    rintro st (rfl | rfl)
    · rfl
    · rfl
  refine ⟨h.keys, ?_, fun o ho hst => h.partialState o ho (.inl hst), h.snapshot⟩
  intro o ho o' ho' hc hst hst'
  exact h.single o ho o' ho' hc (hopen _ hst) (hopen _ hst')

/-- **No operation is created beside a partial failure**, until its run has reached a terminal
result. -/
theorem none_created (hs : s.Untouched) (xs : List (SC05Choice W ι)) {o : OperationId}
    (ho : o < (sc05After portal settings s xs).operationCount) (ys : List (SC05Choice W ι)) :
    (∃ zs, zs <+: ys ∧
      (((sc05After portal settings s (xs ++ zs)).operations o).run.status = .succeeded ∨
        ((sc05After portal settings s (xs ++ zs)).operations o).run.status = .failed)) ∨
    (∀ o', (sc05After portal settings s xs).operationCount ≤ o' →
      o' < (sc05After portal settings s (xs ++ ys)).operationCount →
      ((sc05After portal settings s (xs ++ ys)).operations o').client ≠
        ((sc05After portal settings s xs).operations o).client) ∧
      ((sc05After portal settings s (xs ++ ys)).operations o).client =
        ((sc05After portal settings s xs).operations o).client ∧
      o < (sc05After portal settings s (xs ++ ys)).operationCount := by
  induction ys using List.reverseRecOn with
  | nil =>
    rw [List.append_nil]
    exact .inr ⟨fun o' hle hlt => absurd hlt (Nat.not_lt.2 hle), rfl, ho⟩
  | append_singleton ys x ih =>
    rcases ih with ⟨zs, hzs, hst⟩ | ⟨hnone, hclient, hlt⟩
    · exact .inl ⟨zs, hzs.trans (List.prefix_append ys [x]), hst⟩
    have hproj : Projected (sc05After portal settings s (xs ++ ys)) :=
      (run_holds_projection hs (xs ++ ys)).1
    rcases hproj.created o hlt with hopen | hst | hst
    swap
    · exact .inl ⟨ys, List.prefix_append ys [x], .inl hst⟩
    swap
    · exact .inl ⟨ys, List.prefix_append ys [x], .inr hst⟩
    refine .inr ?_
    rw [← List.append_assoc]
    cases (next_clientMove hs (xs ++ ys) x : ClientMove (sc05After portal settings s (xs ++ ys)) _) with
    | @operation o₁ k c hmove hexists hcount hcards hclients =>
      have hsame : ∀ o', ((sc05After portal settings s (xs ++ ys ++ [x])).operations o').client =
          ((sc05After portal settings s (xs ++ ys)).operations o').client := by
        intro o'
        have hcard := congrArg OperationCard.client (hcards o')
        by_cases heq : o' = o₁
        · rw [if_pos heq, hmove.fields.1] at hcard
          rw [heq] at hcard ⊢
          exact hcard
        · rw [if_neg heq] at hcard
          exact hcard
      refine ⟨?_, (hsame o).trans hclient, by rw [hcount]; exact hlt⟩
      intro o' hle hlt'
      rw [hsame o']
      exact hnone o' hle (hcount ▸ hlt')
    | created c action key hkey hstatus hsnapshot hactive hcount hcards hclients =>
      have hother : ∀ o', o' ≠ (sc05After portal settings s (xs ++ ys)).operationCount →
          ((sc05After portal settings s (xs ++ ys ++ [x])).operations o').client =
          ((sc05After portal settings s (xs ++ ys)).operations o').client := by
        intro o' hne
        have hcard := congrArg OperationCard.client (hcards o')
        rwa [if_neg hne] at hcard
      refine ⟨?_, (hother o (Nat.ne_of_lt hlt)).trans hclient, by
        rw [hcount]; exact Nat.lt_succ_of_lt hlt⟩
      intro o' hle hlt'
      rw [hcount] at hlt'
      rcases Nat.lt_succ_iff_lt_or_eq.1 hlt' with hlt' | rfl
      · rw [hother o' (Nat.ne_of_lt hlt')]
        exact hnone o' hle hlt'
      · -- the client of an open operation is refused
        have hcard := congrArg OperationCard.client
          (hcards (sc05After portal settings s (xs ++ ys)).operationCount)
        rw [if_pos rfl] at hcard
        intro heq
        have hc : ((sc05After portal settings s (xs ++ ys)).operations o).client = c :=
          hclient.trans (heq.symm.trans hcard)
        have hna := hasActiveOperation_false hactive hlt hc
        have hnp : ((sc05After portal settings s (xs ++ ys)).operations o).card.status ≠
            .partiallyFailed := by
          intro hp
          have hpartial := hproj.partialState o hlt (.inl hp)
          rw [show ((sc05After portal settings s (xs ++ ys)).operations o).card.client = c from hc]
            at hpartial
          exact hstatus hpartial
        have hst : ((sc05After portal settings s (xs ++ ys)).operations o).card.status.isActive =
          false := hna
        cases hcase : ((sc05After portal settings s (xs ++ ys)).operations o).card.status <;>
          simp_all [RunStatus.isActive, RunStatus.isOpen]

/-- **SC-05 keeps the projection of its clients**, over every run: the invariants hold, and beside
a partially failed run no operation of its client is created before that run has reached a
terminal result. -/
theorem run_clientsProjected (portal : PortalBackend W ι) (settings : Settings) {s : SC05State W}
    (hs : s.Untouched) (xs : List (SC05Choice W ι)) :
    ClientsProjected (sc05After portal settings s xs) ∧
      ∀ o < (sc05After portal settings s xs).operationCount,
        ((sc05After portal settings s xs).operations o).run.status = .partiallyFailed →
        ∀ (ys : List (SC05Choice W ι)) (o' : OperationId),
          (sc05After portal settings s xs).operationCount ≤ o' →
          o' < (sc05After portal settings s (xs ++ ys)).operationCount →
          ((sc05After portal settings s (xs ++ ys)).operations o').client =
            ((sc05After portal settings s xs).operations o).client →
          ∃ zs, zs <+: ys ∧
            (((sc05After portal settings s (xs ++ zs)).operations o).run.status = .succeeded ∨
              ((sc05After portal settings s (xs ++ zs)).operations o).run.status = .failed) := by
  have hproj : Projected (sc05After portal settings s xs) := (run_holds_projection hs xs).1
  refine ⟨hproj.clients, ?_⟩
  intro o ho _ ys o' hle hlt hclient
  rcases @none_created _ _ portal settings s hs xs o ho ys with h | ⟨h, -, -⟩
  · exact h
  · exact absurd hclient (h o' hle hlt)

/-- One active client, whose portals always answer. -/
def untouchedState : SC05State Unit where
  operations _ := { client := 0, action := .block, run := { module := .sc05, createdAt := 0 } }
  operationCount := 0
  clients _ := { externalReference := "c-1" }
  portals := ()

def answeringPortal : PortalBackend Unit Unit := fun _ _ _ w => (.returned { state := [] }, w)

/-- An operation is created and published, its worker is lost, and its message delivered again. -/
def redeliveredRun : List (SC05Choice Unit Unit) :=
  [.start (.createAndDispatch 0 .block .happyPath 0)] ++ List.replicate 4 (.act 0 { call := () }) ++
  [.start (.deliver 0 (.uuid 0) false), .act 1 { call := () }, .crash 1,
    .start (.deliver 0 (.uuid 0) true), .act 2 { call := () }]

theorem run_clientsProjected_redelivered :
    ((sc05After answeringPortal {} untouchedState redeliveredRun).operations 0).run.status =
        .partiallyFailed ∧
      ClientsProjected (sc05After answeringPortal {} untouchedState redeliveredRun) :=
  ⟨by decide, (run_clientsProjected answeringPortal {} (s := untouchedState)
    ⟨rfl, ⟨fun _ _ => rfl, fun _ => rfl⟩, fun _ => rfl⟩ redeliveredRun).1⟩

end Runs

end SheepContabil
