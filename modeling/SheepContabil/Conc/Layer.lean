import SheepContabil.Conc.Logic

/-!
# An outline over an outline

A sound outline may be strengthened without proving it again: a second
invariant, and a second fact before each action, are verified from what the
first one already knows there.

* `Contract.knowing`: the contract of the second pass. It may assume the first
  invariant and the first precondition.
* `wp_knowing`: the two passes together.
* `Outline.Sound.strengthen`: the strengthened outline is sound.
-/

namespace Conc

variable {Λ : Type} {Resp : Λ → Type} {ε σ φ κ η α : Type}

/-- The contract of a second pass over `C`, with the invariant `J` and the fact `A` before each
action. -/
def Contract.knowing (C : Contract Λ Resp ε σ) (J : σ → Prop) (A : ℕ → Λ → σ → Prop) :
    Contract Λ Resp ε σ where
  inv s := C.inv s ∧ J s
  rely := C.rely
  pre pid l s := C.pre pid l s → A pid l s
  effect pid l s r s' := C.pre pid l s ∧ C.effect pid l s r s'

/-- The contract that both passes verify. -/
def Contract.strengthen (C : Contract Λ Resp ε σ) (J : σ → Prop) (A : ℕ → Λ → σ → Prop) :
    Contract Λ Resp ε σ where
  inv s := C.inv s ∧ J s
  rely := C.rely
  pre pid l s := C.pre pid l s ∧ A pid l s
  effect := C.effect

/-- One action in a second pass. -/
theorem wp_knowing_call {C : Contract Λ Resp ε σ} {J : σ → Prop} {A : ℕ → Λ → σ → Prop} {pid : ℕ}
    {l : Λ} {Q : Except ε (Resp l) → σ → Prop} {s : σ}
    (h : ∀ s', C.rely pid s s' → C.inv s' → J s' → C.pre pid l s' → A pid l s' ∧
      ∀ r s'', C.effect pid l s' r s'' → Q r s'') : wp (C.knowing J A) pid (.call l) Q s := by
  refine wp_call fun s' hr hi => ⟨fun hpre => (h s' hr hi.1 hi.2 hpre).1, ?_⟩
  rintro r s'' ⟨hpre, he⟩
  exact (h s' hr hi.1 hi.2 hpre).2 r s'' he

/-- **The two passes together.** -/
theorem wp_knowing {C : Contract Λ Resp ε σ} {J : σ → Prop} {A : ℕ → Λ → σ → Prop} {pid : ℕ}
    {p : Prog Λ Resp ε α} {Q Q' : Except ε α → σ → Prop} :
    ∀ {s}, wp C pid p Q s → wp (C.knowing J A) pid p Q' s →
      wp (C.strengthen J A) pid p (fun r s => Q r s ∧ Q' r s) s := by
  induction p with
  | ret a => intro s h h'; exact ⟨h, h'⟩
  | raise e => intro s h h'; exact ⟨h, h'⟩
  | act l next ih =>
    intro s h h' s' hr hi
    obtain ⟨hpre, hnext⟩ := h s' hr hi.1
    obtain ⟨hA, hnext'⟩ := h' s' hr hi
    exact ⟨⟨hpre, hA hpre⟩, fun r s'' he => ih r (hnext r s'' he) (hnext' r s'' ⟨hpre, he⟩)⟩

/-- An outline with a second invariant and a second fact before each action. -/
def Outline.strengthen (O : Outline Λ ε σ φ κ η) (J : σ → Prop) (A : ℕ → Λ → σ → Prop) :
    Outline Λ ε σ φ κ η :=
  { O with
    inv := fun s => O.inv s ∧ J s
    pre := fun pid l s => O.pre pid l s ∧ A pid l s }

/-- **Strengthening a sound outline.** The second pass verifies the programs once more, and its
invariant is kept by every move of which both passes know what they know. -/
theorem Outline.Sound.strengthen {S : System Λ Resp ε σ φ κ η} {O : Outline Λ ε σ φ κ η}
    (hS : O.Sound S) {J : σ → Prop} {A : ℕ → Λ → σ → Prop}
    (hstart : ∀ pid k s, wp ((O.contract S).knowing J A) pid (S.body k) (fun _ _ => True) s)
    (hstep : ∀ m s, O.Knows m s → J s → (∀ pid l i, m = .act pid l i → A pid l s) →
      O.Admits S m s → J (S.after m s)) : (O.strengthen J A).Sound S where
  refl := hS.refl
  trans := hS.trans
  post pid k r s s' hr hi hp := hS.post pid k r s s' hr hi.1 hp
  start pid k s hi :=
    wp_mono (fun _ _ h => h.1) (wp_knowing (hS.start pid k s hi.1) (hstart pid k s))
  act pid l i s hi hpre hok := by
    obtain ⟨hkeep, hrely⟩ := hS.act pid l i s hi.1 hpre.1 hok
    refine ⟨⟨hkeep, hstep (.act pid l i) s ⟨hi.1, ?_⟩ hi.2 ?_ hok⟩, hrely⟩
    · rintro _ _ _ ⟨⟩
      exact hpre.1
    · rintro _ _ _ ⟨⟩
      exact hpre.2
  crash pid s hi hok := by
    obtain ⟨hkeep, hrely⟩ := hS.crash pid s hi.1 hok
    refine ⟨⟨hkeep, hstep (.crash pid) s ⟨hi.1, ?_⟩ hi.2 ?_ hok⟩, hrely⟩
    · rintro _ _ _ ⟨⟩
    · rintro _ _ _ ⟨⟩
  env e s hi hok := by
    obtain ⟨hkeep, hrely⟩ := hS.env e s hi.1 hok
    refine ⟨⟨hkeep, hstep (.env e) s ⟨hi.1, ?_⟩ hi.2 ?_ hok⟩, hrely⟩
    · rintro _ _ _ ⟨⟩
    · rintro _ _ _ ⟨⟩

end Conc
