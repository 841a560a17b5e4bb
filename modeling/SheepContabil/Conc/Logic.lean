import SheepContabil.Conc.System

/-!
# Proof outlines for interleaved programs

A `Contract` says what holds of the shared state (`inv`), what a process may
assume of the others (`rely`), what it must know when it performs an action
(`pre`) and what an action may answer and do (`effect`).

* `wp`: the weakest precondition of a program under a contract, with the rules
  for sequencing, handlers and loops.
* `Outline.Sound`: the contract of a system is kept by every move, so each
  process may be verified alone.
* `Outline.Holds.run`: then the invariant and every process's outline hold after
  every admitted run.
* `Outline.Sound.shared_inv`: an invariant proved from the outline, move by move.
* `wp_solo`: a program verified for a process that runs alone.
-/

namespace Conc

variable {Λ : Type} {Resp : Λ → Type} {ε σ φ κ η α β : Type}

/-- What the processes assume, know and do. -/
structure Contract (Λ : Type) (Resp : Λ → Type) (ε σ : Type) where
  inv : σ → Prop
  rely : ℕ → σ → σ → Prop
  pre : ℕ → Λ → σ → Prop
  effect : ℕ → (l : Λ) → σ → Except ε (Resp l) → σ → Prop

/-- `Q` holds when `p`, run by process `pid` from a state related to `s`, ends;
and `pre` holds before each of its actions. Other processes act in between, as
`rely` allows. -/
def wp (C : Contract Λ Resp ε σ) (pid : ℕ) :
    Prog Λ Resp ε α → (Except ε α → σ → Prop) → σ → Prop
  | .ret a, Q, s => Q (.ok a) s
  | .raise e, Q, s => Q (.error e) s
  | .act l next, Q, s =>
    ∀ s', C.rely pid s s' → C.inv s' → C.pre pid l s' ∧
      ∀ r s'', C.effect pid l s' r s'' → wp C pid (next r) Q s''

section Rules

variable {C : Contract Λ Resp ε σ} {pid : ℕ}

@[simp] theorem wp_ret (a : α) (Q : Except ε α → σ → Prop) (s : σ) :
    wp C pid (.ret a) Q s ↔ Q (.ok a) s := Iff.rfl

@[simp] theorem wp_raise (e : ε) (Q : Except ε α → σ → Prop) (s : σ) :
    wp C pid (.raise e : Prog Λ Resp ε α) Q s ↔ Q (.error e) s := Iff.rfl

theorem wp_mono {p : Prog Λ Resp ε α} {Q Q' : Except ε α → σ → Prop} (h : ∀ r s, Q r s → Q' r s) :
    ∀ {s}, wp C pid p Q s → wp C pid p Q' s := by
  induction p with
  | ret a => intro s hp; exact h _ _ hp
  | raise e => intro s hp; exact h _ _ hp
  | act l next ih =>
    intro s hp s' hr hi
    obtain ⟨hpre, hnext⟩ := hp s' hr hi
    exact ⟨hpre, fun r s'' he => ih _ (hnext r s'' he)⟩

/-- Sequencing: the continuation is verified where the program returns. -/
theorem wp_bind {p : Prog Λ Resp ε α} {k : α → Prog Λ Resp ε β} {Q : Except ε β → σ → Prop} :
    ∀ {s}, wp C pid p (fun r s => match r with
        | .ok a => wp C pid (k a) Q s
        | .error e => Q (.error e) s) s → wp C pid (p.bind k) Q s := by
  induction p with
  | ret a => intro s h; exact h
  | raise e => intro s h; exact h
  | act l next ih =>
    intro s h s' hr hi
    obtain ⟨hpre, hnext⟩ := h s' hr hi
    exact ⟨hpre, fun r s'' he => ih _ (hnext r s'' he)⟩

/-- Handlers: the handler is verified where the program raises. -/
theorem wp_tryCatch {p : Prog Λ Resp ε α} {h : ε → Prog Λ Resp ε α} {Q : Except ε α → σ → Prop} :
    ∀ {s}, wp C pid p (fun r s => match r with
        | .ok a => Q (.ok a) s
        | .error e => wp C pid (h e) Q s) s → wp C pid (p.tryCatch h) Q s := by
  induction p with
  | ret a => intro s hp; exact hp
  | raise e => intro s hp; exact hp
  | act l next ih =>
    intro s hp s' hr hi
    obtain ⟨hpre, hnext⟩ := hp s' hr hi
    exact ⟨hpre, fun r s'' he => ih _ (hnext r s'' he)⟩

/-- A handler whose `else` branch goes on: both exits are verified after it. -/
theorem wp_attempt {p : Prog Λ Resp ε α} {Q : Except ε (Except ε α) → σ → Prop} :
    ∀ {s}, wp C pid p (fun r s => Q (.ok r) s) s → wp C pid p.attempt Q s := by
  induction p with
  | ret a => intro s hp; exact hp
  | raise e => intro s hp; exact hp
  | act l next ih =>
    intro s hp s' hr hi
    obtain ⟨hpre, hnext⟩ := hp s' hr hi
    exact ⟨hpre, fun r s'' he => ih _ (hnext r s'' he)⟩

/-- Clean-up: the finalizer is verified on both exits. -/
theorem wp_tryFinally {p : Prog Λ Resp ε α} {c : Prog Λ Resp ε Unit}
    {Q : Except ε α → σ → Prop} :
    ∀ {s}, wp C pid p (fun r s => wp C pid c (fun r' s => match r' with
        | .ok _ => Q r s
        | .error e => Q (.error e) s) s) s → wp C pid (p.tryFinally c) Q s := by
  induction p with
  | ret a =>
    intro s hp
    refine wp_bind (wp_mono ?_ hp)
    rintro (e | u) s h <;> exact h
  | raise e =>
    intro s hp
    refine wp_bind (wp_mono ?_ hp)
    rintro (e | u) s h <;> exact h
  | act l next ih =>
    intro s hp s' hr hi
    obtain ⟨hpre, hnext⟩ := hp s' hr hi
    exact ⟨hpre, fun r s'' he => ih _ (hnext r s'' he)⟩

/-- One action. -/
theorem wp_call {l : Λ} {Q : Except ε (Resp l) → σ → Prop} {s : σ}
    (h : ∀ s', C.rely pid s s' → C.inv s' → C.pre pid l s' ∧
      ∀ r s'', C.effect pid l s' r s'' → Q r s'') : wp C pid (.call l) Q s := by
  intro s' hr hi
  obtain ⟨hpre, hnext⟩ := h s' hr hi
  refine ⟨hpre, fun r s'' he => ?_⟩
  cases r <;> exact hnext _ _ he

/-- A program's outline survives what the others do, if its postcondition does. -/
theorem wp_rely {p : Prog Λ Resp ε α} {Q : Except ε α → σ → Prop} {s s' : σ}
    (htrans : ∀ a b c, C.rely pid a b → C.rely pid b c → C.rely pid a c)
    (hQ : ∀ r, Q r s → Q r s') (hr : C.rely pid s s') (h : wp C pid p Q s) :
    wp C pid p Q s' := by
  cases p with
  | ret a => exact hQ _ h
  | raise e => exact hQ _ h
  | act l next => intro s'' hr' hi; exact h s'' (htrans _ _ _ hr hr') hi

/-- A program whose actions need no precondition is verified for the trivial postcondition. -/
theorem wp_within {A : Λ → Prop} (hA : ∀ l s, A l → C.pre pid l s) {p : Prog Λ Resp ε α}
    (hp : p.Within A) {Q : Except ε α → σ → Prop} (hQ : ∀ r s, Q r s) :
    ∀ {s}, wp C pid p Q s := by
  induction p with
  | ret a => intro s; exact hQ _ _
  | raise e => intro s; exact hQ _ _
  | act l next ih =>
    intro s s' _ _
    exact ⟨hA l s' hp.1, fun r s'' _ => ih r (hp.2 r)⟩

/-- A program whose actions keep a fact, which the others keep too, ends with it. -/
theorem wp_within_keeps {A : Λ → Prop} {J : σ → Prop} (hrely : ∀ s s', J s → C.rely pid s s' → J s')
    (hA : ∀ l s, A l → J s → C.inv s → C.pre pid l s ∧ ∀ r s', C.effect pid l s r s' → J s')
    {p : Prog Λ Resp ε α} (hp : p.Within A) : ∀ {s}, J s → wp C pid p (fun _ s => J s) s := by
  induction p with
  | ret a => intro s hs; exact hs
  | raise e => intro s hs; exact hs
  | act l next ih =>
    intro s hs s' hr hi
    obtain ⟨hpre, hnext⟩ := hA l s' hp.1 (hrely s s' hs hr) hi
    exact ⟨hpre, fun r s'' he => ih r (hp.2 r) (hnext r s'' he)⟩

end Rules

/-- The contract of a system's processes, with the steps it admits and what a process leaves
behind. -/
structure Outline (Λ ε σ φ κ η : Type) where
  inv : σ → Prop
  rely : ℕ → σ → σ → Prop
  pre : ℕ → Λ → σ → Prop
  ok : Move Λ φ η → σ → σ → Prop
  post : ℕ → κ → Except ε Unit → σ → Prop

/-- The contract of an outline: the effects are those of the admitted steps. -/
def Outline.contract (S : System Λ Resp ε σ φ κ η) (O : Outline Λ ε σ φ κ η) :
    Contract Λ Resp ε σ where
  inv := O.inv
  rely := O.rely
  pre := O.pre
  effect pid l s r s' := ∃ i, O.ok (.act pid l i) s s' ∧ S.sem pid l i s = (r, s')

/-- The invariant and the outline of every process. -/
def Outline.Holds (S : System Λ Resp ε σ φ κ η) (O : Outline Λ ε σ φ κ η)
    (c : Config Λ Resp ε σ κ) : Prop :=
  O.inv c.shared ∧ (∀ pid, c.count ≤ pid → c.procs pid = none) ∧
    ∀ pid k p, c.procs pid = some (k, p) → wp (O.contract S) pid p (O.post pid k) c.shared

/-- What a move keeps: the invariant, and what the processes other than its own rely on. -/
def Outline.Keeps (S : System Λ Resp ε σ φ κ η) (O : Outline Λ ε σ φ κ η) (m : Move Λ φ η)
    (s : σ) : Prop :=
  O.inv (S.after m s) ∧ ∀ q, m.pid? ≠ some q → O.rely q s (S.after m s)

/-- The outline admits the step that a move makes. -/
def Outline.Admits (S : System Λ Resp ε σ φ κ η) (O : Outline Λ ε σ φ κ η) (m : Move Λ φ η)
    (s : σ) : Prop :=
  O.ok m s (S.after m s)

/-- Every admitted step keeps the invariant and what the other processes rely on, and
every program meets its outline. -/
structure Outline.Sound (S : System Λ Resp ε σ φ κ η) (O : Outline Λ ε σ φ κ η) : Prop where
  refl : ∀ pid s, O.rely pid s s
  trans : ∀ pid a b c, O.rely pid a b → O.rely pid b c → O.rely pid a c
  post : ∀ pid k r s s', O.rely pid s s' → O.inv s' → O.post pid k r s → O.post pid k r s'
  start : ∀ pid k s, O.inv s → wp (O.contract S) pid (S.body k) (O.post pid k) s
  act : ∀ pid l i s, O.inv s → O.pre pid l s → O.Admits S (.act pid l i) s →
    O.Keeps S (.act pid l i) s
  crash : ∀ pid s, O.inv s → O.Admits S (.crash pid) s → O.Keeps S (.crash pid) s
  env : ∀ e s, O.inv s → O.Admits S (.env e) s → O.Keeps S (.env e) s

namespace Outline.Holds

variable {S : System Λ Resp ε σ φ κ η} {O : Outline Λ ε σ φ κ η} {c : Config Λ Resp ε σ κ}

/-- What a process knows when it performs its next action. -/
theorem pre (hS : O.Sound S) (h : O.Holds S c) {pid : ℕ} {k : κ} {l : Λ}
    {nxt : Except ε (Resp l) → Prog Λ Resp ε Unit} (hp : c.procs pid = some (k, .act l nxt)) :
    O.pre pid l c.shared :=
  ((h.2.2 pid k _ hp) c.shared (hS.refl _ _) h.1).1

/-- What is known before any move. -/
theorem pre_of_move (hS : O.Sound S) (h : O.Holds S c) {x : Choice φ κ η} {pid : ℕ} {l : Λ} {i : φ}
    (hm : c.move? x = some (.act pid l i)) : O.pre pid l c.shared := by
  cases x with
  | start k => cases hm
  | env e => simp [Config.move?] at hm
  | crash q =>
    simp only [Config.move?] at hm
    split at hm <;> simp at hm
  | act q j =>
    simp only [Config.move?] at hm
    split at hm
    · rename_i k l' nxt hp
      simp only [Option.some.injEq, Move.act.injEq] at hm
      obtain ⟨rfl, rfl, rfl⟩ := hm
      exact h.pre hS hp
    · cases hm

/-- The outline of the processes a move does not run survives it. -/
private theorem others (hS : O.Sound S) (h : O.Holds S c) {m : Move Λ φ η}
    (hm : O.Keeps S m c.shared) {q : ℕ} (hq : m.pid? ≠ some q) {k : κ} {p : Prog Λ Resp ε Unit}
    (hp : c.procs q = some (k, p)) : wp (O.contract S) q p (O.post q k) (S.after m c.shared) :=
  wp_rely (hS.trans q) (fun r => hS.post q k r _ _ (hm.2 q hq) hm.1) (hm.2 q hq) (h.2.2 q k p hp)

/-- One admitted choice keeps the outline. -/
theorem next (hS : O.Sound S) (h : O.Holds S c) {x : Choice φ κ η}
    (hx : ∀ m, c.move? x = some m → O.Admits S m c.shared) : O.Holds S (S.next c x) := by
  obtain ⟨hinv, hfresh, hprocs⟩ := id h
  cases x with
  | start k =>
    -- the new process is at its start, where the invariant is enough
    refine ⟨hinv, ?_, ?_⟩
    · intro pid hpid
      have hlt : c.count < pid := hpid
      show Function.update c.procs c.count _ pid = none
      rw [Function.update_of_ne (by omega)]
      exact hfresh pid (by omega)
    · intro pid k' p hp
      change Function.update c.procs c.count _ pid = _ at hp
      by_cases hpid : pid = c.count
      · subst hpid
        simp only [Function.update_self, Option.some.injEq, Prod.mk.injEq] at hp
        obtain ⟨rfl, rfl⟩ := hp
        exact hS.start _ _ _ hinv
      · rw [Function.update_of_ne hpid] at hp
        exact hprocs pid k' p hp
  | act pid i =>
    simp only [System.next]
    split
    · rename_i k l nxt hp
      -- the process that acts has what it needs, the others rely on its guarantee
      have hok := hx (.act pid l i) (by simp [Config.move?, hp])
      obtain ⟨hpre, hnext⟩ := hprocs pid k _ hp c.shared (hS.refl _ _) hinv
      have hkeep := hS.act pid l i c.shared hinv hpre hok
      refine ⟨hkeep.1, ?_, ?_⟩
      · intro q hq
        have hne : q ≠ pid := by rintro rfl; rw [hfresh q hq] at hp; cases hp
        show Function.update c.procs pid _ q = none
        rw [Function.update_of_ne hne]; exact hfresh q hq
      · intro q k' p hq
        change Function.update c.procs pid _ q = _ at hq
        by_cases hqp : q = pid
        · subst hqp
          simp only [Function.update_self, Option.some.injEq, Prod.mk.injEq] at hq
          obtain ⟨rfl, rfl⟩ := hq
          exact hnext _ _ ⟨i, hok, rfl⟩
        · rw [Function.update_of_ne hqp] at hq
          exact h.others hS hkeep (by simpa [Move.pid?] using Ne.symm hqp) hq
    · exact h
  | crash pid =>
    simp only [System.next]
    split
    · rename_i k l nxt hp
      have hkeep := hS.crash pid c.shared hinv (hx (.crash pid) (by simp [Config.move?, hp]))
      refine ⟨hkeep.1, ?_, ?_⟩
      · intro q hq
        show Function.update c.procs pid none q = none
        by_cases hqp : q = pid
        · subst hqp; exact Function.update_self ..
        · rw [Function.update_of_ne hqp]; exact hfresh q hq
      · intro q k' p hq
        change Function.update c.procs pid none q = _ at hq
        by_cases hqp : q = pid
        · subst hqp; rw [Function.update_self] at hq; cases hq
        · rw [Function.update_of_ne hqp] at hq
          exact h.others hS hkeep (by simpa [Move.pid?] using Ne.symm hqp) hq
    · exact h
  | env e =>
    have hkeep := hS.env e c.shared hinv (hx (.env e) rfl)
    exact ⟨hkeep.1, hfresh, fun q k' p hq => h.others hS hkeep (by simp [Move.pid?]) hq⟩

/-- **Soundness of an outline.** It holds after every admitted run. -/
theorem run (hS : O.Sound S) {xs : List (Choice φ κ η)} (h : O.Holds S c)
    (hok : S.RunOk (O.Admits S) c xs) : O.Holds S (S.run c xs) :=
  System.run_inv (I := O.Holds S) (fun _ _ hc hx => Outline.Holds.next hS hc hx) h hok

end Outline.Holds

theorem Outline.holds_idle (S : System Λ Resp ε σ φ κ η) (O : Outline Λ ε σ φ κ η) {s : σ}
    (hs : O.inv s) : O.Holds S (Config.idle s) :=
  ⟨hs, fun _ _ => rfl, fun _ _ _ h => by cases h⟩

/-- What is known before a move: the invariant and the precondition of its action. -/
def Outline.Knows (O : Outline Λ ε σ φ κ η) (m : Move Λ φ η) (s : σ) : Prop :=
  O.inv s ∧ ∀ pid l i, m = .act pid l i → O.pre pid l s

/-- **Invariants over an outline.** An invariant may be proved move by move, from
what the outline knows before the move. -/
theorem Outline.Sound.shared_inv {S : System Λ Resp ε σ φ κ η} {O : Outline Λ ε σ φ κ η}
    (hS : O.Sound S) (ok : Move Λ φ η → σ → Prop) (hok : ∀ m s, ok m s → O.Admits S m s) {I : σ → Prop}
    (hstep : ∀ m s, I s → O.Knows m s → ok m s → I (S.after m s)) {xs : List (Choice φ κ η)}
    {c : Config Λ Resp ε σ κ} (hc : O.Holds S c) (hI : I c.shared) (hxs : S.RunOk ok c xs) :
    I (S.run c xs).shared := by
  refine (System.run_inv (I := fun c => O.Holds S c ∧ I c.shared) ?_ ⟨hc, hI⟩ hxs).2
  rintro c x ⟨hc, hI⟩ hx
  refine ⟨hc.next hS fun m hm => hok m _ (hx m hm), ?_⟩
  rw [System.next_shared]
  cases hm : c.move? x with
  | none => exact hI
  | some m =>
    refine hstep m _ hI ⟨hc.1, ?_⟩ (hx m hm)
    rintro pid l i rfl
    exact hc.pre_of_move hS hm

/-- What the outline knows is known before every move of an admitted run. -/
theorem Outline.Sound.knows_run {S : System Λ Resp ε σ φ κ η} {O : Outline Λ ε σ φ κ η}
    (hS : O.Sound S) : ∀ {xs : List (Choice φ κ η)} {c : Config Λ Resp ε σ κ}, O.Holds S c →
      S.RunOk (O.Admits S) c xs → S.RunOk O.Knows c xs := by
  intro xs
  induction xs with
  | nil => intro c _ _; trivial
  | cons x xs ih =>
    intro c hc hok
    refine ⟨fun m hm => ⟨hc.1, ?_⟩, ih (hc.next hS hok.1) hok.2⟩
    rintro pid l i rfl
    exact hc.pre_of_move hS hm

section Solo

variable {S : System Λ Resp ε σ φ κ η} {ok : Move Λ φ η → σ → Prop}

/-- The contract of a process that runs alone: nobody interferes, and its actions do what the
system says under the admitted fates. -/
def solo (S : System Λ Resp ε σ φ κ η) (ok : Move Λ φ η → σ → Prop) : Contract Λ Resp ε σ where
  inv _ := True
  rely _ s s' := s' = s
  pre _ _ _ := True
  effect pid l s r s' := ∃ i, ok (.act pid l i) s ∧ S.sem pid l i s = (r, s')

/-- One action of a process that runs alone. -/
theorem wp_solo_call {pid : ℕ} {l : Λ} {Q : Except ε (Resp l) → σ → Prop} {s : σ}
    (h : ∀ i, ok (.act pid l i) s → Q (S.sem pid l i s).1 (S.sem pid l i s).2) :
    wp (solo S ok) pid (.call l) Q s := by
  refine wp_call ?_
  rintro s' rfl -
  refine ⟨trivial, ?_⟩
  rintro r s'' ⟨i, hok, hsem⟩
  have hi := h i hok
  rw [hsem] at hi
  exact hi

/-- **A process that runs alone to its end leaves what its program promises.** -/
theorem wp_solo {pid : ℕ} {k : κ} {Q : Except ε Unit → σ → Prop} :
    ∀ (fates : List φ) {c : Config Λ Resp ε σ κ} {p : Prog Λ Resp ε Unit},
      c.procs pid = some (k, p) → wp (solo S ok) pid p Q c.shared →
      S.RunOk ok c (System.solo pid fates) →
      (S.run c (System.solo pid fates)).finished pid = true →
      ∃ r, Q r (S.run c (System.solo pid fates)).shared := by
  intro fates
  induction fates with
  | nil =>
    intro c p hp hwp _ hfin
    simp only [System.solo, List.map_nil, System.run_nil, Config.finished, hp] at hfin ⊢
    cases p with
    | ret a => exact ⟨_, hwp⟩
    | raise e => exact ⟨_, hwp⟩
    | act l nxt => cases hfin
  | cons i fates ih =>
    intro c p hp hwp hok hfin
    cases p with
    | act l nxt =>
      have hmove := hok.1 (.act pid l i) (by simp [Config.move?, hp])
      obtain ⟨-, hnext⟩ := hwp c.shared rfl trivial
      refine ih (c := S.next c (.act pid i)) (p := nxt (S.sem pid l i c.shared).1)
        (by simp [System.next, hp]) ?_ hok.2 hfin
      have h := hnext _ _ ⟨i, hmove, rfl⟩
      simpa [System.next, hp] using h
    | ret a =>
      have hidle : S.next c (.act pid i) = c :=
        System.next_eq_self (by simp [Config.move?, hp]) (by simp)
      have hok' := hok.2
      simp only [System.solo, List.map_cons, System.run_cons, hidle] at hfin hok' ⊢
      exact ih hp hwp hok' hfin
    | raise e =>
      have hidle : S.next c (.act pid i) = c :=
        System.next_eq_self (by simp [Config.move?, hp]) (by simp)
      have hok' := hok.2
      simp only [System.solo, List.map_cons, System.run_cons, hidle] at hfin hok' ⊢
      exact ih hp hwp hok' hfin

end Solo

end Conc
