import SheepContabil.Conc.Logic

/-!
# Verifying a system through a view of its state

A view `ν : σ → V` keeps the part of the state a property speaks of. An `Abstract`
system says, as a relation between views, what the actions, the crashes and the
environment may do to that part; a `Simulates` theorem connects the two once. A
property is then proved of the abstract system, where states are small.

* `wp_pull`: a program verified on views is verified on states.
* `AbstractSound.pull`: an outline sound for the abstract system is sound for the
  system it simulates.
-/

namespace Conc

variable {Λ : Type} {Resp : Λ → Type} {ε σ φ κ η α V : Type}

/-- What actions, crashes and the environment may do to a view. -/
structure Abstract (Λ : Type) (Resp : Λ → Type) (ε φ η V : Type) where
  act : ℕ → (l : Λ) → φ → V → Except ε (Resp l) → V → Prop
  crash : ℕ → V → V → Prop
  env : η → V → V → Prop

/-- What a move may do to a view. -/
def Abstract.move (T : Abstract Λ Resp ε φ η V) : Move Λ φ η → V → V → Prop
  | .act pid l i, v, v' => ∃ r, T.act pid l i v r v'
  | .crash pid, v, v' => T.crash pid v v'
  | .env e, v, v' => T.env e v v'

/-- Every move of the system from a state in `D` stays in `D` and is one of the abstract system
on the views. -/
structure Simulates (S : System Λ Resp ε σ φ κ η) (T : Abstract Λ Resp ε φ η V) (D : σ → Prop)
    (ν : σ → V) : Prop where
  keeps : ∀ m s, D s → D (S.after m s)
  act : ∀ pid l i s, D s → T.act pid l i (ν s) (S.sem pid l i s).1 (ν (S.sem pid l i s).2)
  crash : ∀ pid s, D s → T.crash pid (ν s) (ν (S.onCrash pid s))
  env : ∀ e s, D s → T.env e (ν s) (ν (S.env e s))

theorem Simulates.move {S : System Λ Resp ε σ φ κ η} {T : Abstract Λ Resp ε φ η V} {D : σ → Prop}
    {ν : σ → V} (h : Simulates S T D ν) (m : Move Λ φ η) {s : σ} (hs : D s) :
    T.move m (ν s) (ν (S.after m s)) := by
  cases m with
  | act pid l i => exact ⟨_, h.act pid l i s hs⟩
  | crash pid => exact h.crash pid s hs
  | env e => exact h.env e s hs

namespace Outline

/-- The contract of an outline on views. -/
def abstractContract (T : Abstract Λ Resp ε φ η V) (O : Outline Λ ε V φ κ η) :
    Contract Λ Resp ε V where
  inv := O.inv
  rely := O.rely
  pre := O.pre
  effect pid l v r v' := ∃ i, O.ok (.act pid l i) v v' ∧ T.act pid l i v r v'

/-- The outline on states that speaks of their views. -/
def pull (D : σ → Prop) (ν : σ → V) (O : Outline Λ ε V φ κ η) : Outline Λ ε σ φ κ η where
  inv s := D s ∧ O.inv (ν s)
  rely pid s s' := O.rely pid (ν s) (ν s')
  pre pid l s := O.pre pid l (ν s)
  ok m s s' := O.ok m (ν s) (ν s')
  post pid k r s := O.post pid k r (ν s)

/-- What a move keeps: the invariant, and what the processes other than its own rely on. -/
def AbstractKeeps (O : Outline Λ ε V φ κ η) (m : Move Λ φ η) (v v' : V) : Prop :=
  O.inv v' ∧ ∀ q, m.pid? ≠ some q → O.rely q v v'

/-- An outline that is sound for an abstract system and the programs `body`. -/
structure AbstractSound (T : Abstract Λ Resp ε φ η V) (body : κ → Prog Λ Resp ε Unit)
    (O : Outline Λ ε V φ κ η) : Prop where
  refl : ∀ pid v, O.rely pid v v
  trans : ∀ pid a b c, O.rely pid a b → O.rely pid b c → O.rely pid a c
  post : ∀ pid k r v v', O.rely pid v v' → O.inv v' → O.post pid k r v → O.post pid k r v'
  start : ∀ pid k v, O.inv v → wp (O.abstractContract T) pid (body k) (O.post pid k) v
  act : ∀ pid l i v r v', O.inv v → O.pre pid l v → O.ok (.act pid l i) v v' →
    T.act pid l i v r v' → O.AbstractKeeps (.act pid l i) v v'
  crash : ∀ pid v v', O.inv v → O.ok (.crash pid) v v' → T.crash pid v v' →
    O.AbstractKeeps (.crash pid : Move Λ φ η) v v'
  env : ∀ e v v', O.inv v → O.ok (.env e) v v' → T.env e v v' →
    O.AbstractKeeps (.env e : Move Λ φ η) v v'

end Outline

section Pull

variable {S : System Λ Resp ε σ φ κ η} {T : Abstract Λ Resp ε φ η V} {D : σ → Prop} {ν : σ → V}
  {O : Outline Λ ε V φ κ η}

/-- A program verified on views is verified on states. -/
theorem wp_pull (h : Simulates S T D ν) {pid : ℕ} {p : Prog Λ Resp ε α}
    {Q : Except ε α → V → Prop} :
    ∀ {s}, wp (O.abstractContract T) pid p Q (ν s) →
      wp ((O.pull D ν).contract S) pid p (fun r s => Q r (ν s)) s := by
  induction p with
  | ret a => intro s hp; exact hp
  | raise e => intro s hp; exact hp
  | act l next ih =>
    intro s hp s' hr hi
    obtain ⟨hpre, hnext⟩ := hp (ν s') hr hi.2
    refine ⟨hpre, ?_⟩
    rintro r s'' ⟨i, hok, hsem⟩
    have he := h.act pid l i s' hi.1
    rw [hsem] at he
    exact ih r (hnext r _ ⟨i, hok, he⟩)

/-- **Soundness through a view.** -/
theorem Outline.AbstractSound.pull (hO : O.AbstractSound T S.body) (h : Simulates S T D ν) :
    (O.pull D ν).Sound S where
  refl pid s := hO.refl pid _
  trans pid a b c := hO.trans pid _ _ _
  post pid k r s s' hr hi := hO.post pid k r _ _ hr hi.2
  start pid k s hi := wp_pull h (hO.start pid k _ hi.2)
  act pid l i s hi hpre hok := by
    obtain ⟨hinv, hrely⟩ := hO.act pid l i _ _ _ hi.2 hpre hok (h.act pid l i s hi.1)
    exact ⟨⟨h.keeps (.act pid l i) s hi.1, hinv⟩, hrely⟩
  crash pid s hi hok := by
    obtain ⟨hinv, hrely⟩ := hO.crash pid _ _ hi.2 hok (h.crash pid s hi.1)
    exact ⟨⟨h.keeps (.crash pid) s hi.1, hinv⟩, hrely⟩
  env e s hi hok := by
    obtain ⟨hinv, hrely⟩ := hO.env e _ _ hi.2 hok (h.env e s hi.1)
    exact ⟨⟨h.keeps (.env e) s hi.1, hinv⟩, hrely⟩

theorem Outline.pull_idle (S : System Λ Resp ε σ φ κ η) {s : σ} (hs : D s) (hinv : O.inv (ν s)) :
    (O.pull D ν).Holds S (Config.idle s) :=
  Outline.holds_idle S _ ⟨hs, hinv⟩

/-- **Invariants of the view.** An invariant of the view may be proved move by move on the
abstract system, from what an outline knows before the move. -/
theorem Outline.AbstractSound.view_inv (hO : O.AbstractSound T S.body) (h : Simulates S T D ν)
    {ok : Move Λ φ η → V → V → Prop} (hok : ∀ m v v', ok m v v' → O.ok m v v') {I : V → Prop}
    (hstep : ∀ m v v', I v → O.Knows m v → ok m v v' → T.move m v v' → I v')
    {xs : List (Choice φ κ η)} {c : Config Λ Resp ε σ κ} (hc : (O.pull D ν).Holds S c)
    (hI : I (ν c.shared)) (hxs : S.RunOk (fun m s => ok m (ν s) (ν (S.after m s))) c xs) :
    I (ν (S.run c xs).shared) := by
  refine (hO.pull h).shared_inv (fun m s => ok m (ν s) (ν (S.after m s)))
    (fun m s hm => hok m _ _ hm) (I := fun s => I (ν s)) ?_ hc hI hxs
  intro m s hIs hk hm
  exact hstep m _ _ hIs ⟨hk.1.2, hk.2⟩ hm (h.move m hk.1.1)

/-- The outline on states holds after a run of admitted steps. -/
theorem Outline.AbstractSound.holds_run (hO : O.AbstractSound T S.body) (h : Simulates S T D ν)
    {xs : List (Choice φ κ η)} {c : Config Λ Resp ε σ κ} (hc : (O.pull D ν).Holds S c)
    (hxs : S.RunOk (fun m s => O.ok m (ν s) (ν (S.after m s))) c xs) :
    (O.pull D ν).Holds S (S.run c xs) :=
  Outline.Holds.run (hO.pull h) hc hxs

end Pull

end Conc
