import SheepContabil.Conc.Prog
import Mathlib.Logic.Function.Basic

/-!
# Systems of interleaved programs

Processes run programs over one shared state. A scheduler picks a process and
lets it perform its next action, starts a process, kills one (a crash: the rest
of its program is lost), or lets the environment change the state. A *fate*
answers everything the state does not determine about an action.

* `System.next`, `System.run`: one choice of the scheduler, and a run of them.
* `System.RunOk`: a run each of whose moves meets a condition on the state
  before it.
* `System.run_inv`: what every choice keeps holds after every run.
* `System.RunEach`: a condition on every choice and the configuration before it.
* `System.exists_run_done`: a process that is scheduled often enough ends.
-/

namespace Conc

/-- The shared state and the processes started so far. A crashed process is
`none`; a finished one keeps its last leaf. -/
structure Config (Λ : Type) (Resp : Λ → Type) (ε σ κ : Type) where
  shared : σ
  procs : ℕ → Option (κ × Prog Λ Resp ε Unit)
  count : ℕ

/-- One choice of the scheduler. -/
inductive Choice (φ κ η : Type) where
  | start (k : κ)
  | act (pid : ℕ) (fate : φ)
  | crash (pid : ℕ)
  | env (e : η)

/-- What a choice does to the shared state. -/
inductive Move (Λ φ η : Type) where
  | act (pid : ℕ) (l : Λ) (fate : φ)
  | crash (pid : ℕ)
  | env (e : η)

/-- The process a move is made by. -/
def Move.pid? {Λ φ η : Type} : Move Λ φ η → Option ℕ
  | act pid _ _ | crash pid => some pid
  | env _ => none

/-- What the actions do, what the processes run, what the death of a process and
the environment do to the state. -/
structure System (Λ : Type) (Resp : Λ → Type) (ε σ φ κ η : Type) where
  sem : ℕ → (l : Λ) → φ → σ → Except ε (Resp l) × σ
  body : κ → Prog Λ Resp ε Unit
  onCrash : ℕ → σ → σ
  env : η → σ → σ

variable {Λ : Type} {Resp : Λ → Type} {ε σ φ κ η : Type}

namespace Config

/-- The action process `pid` performs next. -/
def label? (c : Config Λ Resp ε σ κ) (pid : ℕ) : Option Λ :=
  match c.procs pid with
  | some (_, p) => p.label?
  | none => none

/-- Process `pid` has returned or raised. -/
def finished (c : Config Λ Resp ε σ κ) (pid : ℕ) : Bool :=
  match c.procs pid with
  | some (_, p) => p.done
  | none => false

/-- No process has started. -/
def idle (s : σ) : Config Λ Resp ε σ κ := ⟨s, fun _ => none, 0⟩

/-- The move a choice makes, if it touches the shared state. -/
def move? (c : Config Λ Resp ε σ κ) : Choice φ κ η → Option (Move Λ φ η)
  | .start _ => none
  | .act pid i =>
    match c.procs pid with
    | some (_, .act l _) => some (.act pid l i)
    | _ => none
  | .crash pid =>
    match c.procs pid with
    | some (_, .act _ _) => some (.crash pid)
    | _ => none
  | .env e => some (.env e)

end Config

namespace System

variable (S : System Λ Resp ε σ φ κ η)

/-- The effect of one choice. A choice that is not enabled changes nothing. -/
def next (c : Config Λ Resp ε σ κ) : Choice φ κ η → Config Λ Resp ε σ κ
  | .start k =>
    { c with procs := Function.update c.procs c.count (some (k, S.body k)), count := c.count + 1 }
  | .act pid i =>
    match c.procs pid with
    | some (k, .act l nxt) =>
      { c with shared := (S.sem pid l i c.shared).2,
               procs := Function.update c.procs pid
                 (some (k, nxt (S.sem pid l i c.shared).1)) }
    | _ => c
  | .crash pid =>
    match c.procs pid with
    | some (_, .act _ _) =>
      { c with shared := S.onCrash pid c.shared, procs := Function.update c.procs pid none }
    | _ => c
  | .env e => { c with shared := S.env e c.shared }

/-- The configuration after a list of choices. -/
def run (c : Config Λ Resp ε σ κ) (xs : List (Choice φ κ η)) : Config Λ Resp ε σ κ :=
  xs.foldl S.next c

/-- Every move of the run meets `ok` in the state before it. -/
def RunOk (ok : Move Λ φ η → σ → Prop) : Config Λ Resp ε σ κ → List (Choice φ κ η) → Prop
  | _, [] => True
  | c, x :: xs => (∀ m, c.move? x = some m → ok m c.shared) ∧ RunOk ok (S.next c x) xs

/-- Whether a run is admitted can be computed. -/
instance decidableRunOk (ok : Move Λ φ η → σ → Prop) [∀ m s, Decidable (ok m s)] :
    ∀ (c : Config Λ Resp ε σ κ) (xs : List (Choice φ κ η)), Decidable (S.RunOk ok c xs)
  | _, [] => isTrue trivial
  | c, x :: xs =>
    have := decidableRunOk ok (S.next c x) xs
    match hm : c.move? x with
    | none => decidable_of_iff (S.RunOk ok (S.next c x) xs) (by simp [RunOk, hm])
    | some m => decidable_of_iff (ok m c.shared ∧ S.RunOk ok (S.next c x) xs)
        (by simp [RunOk, hm])

variable {S}

@[simp] theorem run_nil (c : Config Λ Resp ε σ κ) : S.run c [] = c := rfl

@[simp] theorem run_cons (c : Config Λ Resp ε σ κ) (x : Choice φ κ η) (xs : List (Choice φ κ η)) :
    S.run c (x :: xs) = S.run (S.next c x) xs := rfl

theorem run_append (c : Config Λ Resp ε σ κ) (xs ys : List (Choice φ κ η)) :
    S.run c (xs ++ ys) = S.run (S.run c xs) ys := by
  simp [run, List.foldl_append]

/-- A choice of a process that is enabled performs its next action. -/
theorem move?_act {c : Config Λ Resp ε σ κ} {pid : ℕ} {i : φ} {m : Move Λ φ η}
    (h : c.move? (.act pid i) = some m) :
    ∃ k l nxt, c.procs pid = some (k, .act l nxt) ∧ m = .act pid l i := by
  simp only [Config.move?] at h
  split at h
  · next k l nxt hproc => exact ⟨k, l, nxt, hproc, (Option.some.inj h).symm⟩
  · cases h

/-- Only a process with an action left can be killed. -/
theorem move?_crash {c : Config Λ Resp ε σ κ} {pid : ℕ} {m : Move Λ φ η}
    (h : c.move? (.crash pid : Choice φ κ η) = some m) :
    ∃ k l nxt, c.procs pid = some (k, .act l nxt) ∧ m = .crash pid := by
  simp only [Config.move?] at h
  split at h
  · next k l nxt hproc => exact ⟨k, l, nxt, hproc, (Option.some.inj h).symm⟩
  · cases h

/-- A choice that is not enabled changes nothing. -/
theorem next_eq_self {c : Config Λ Resp ε σ κ} {x : Choice φ κ η} (hmove : c.move? x = none)
    (hstart : ∀ k, x ≠ .start k) : S.next c x = c := by
  cases x with
  | start k => exact absurd rfl (hstart k)
  | env e => cases hmove
  | act pid i =>
    simp only [next]
    split
    · next k l nxt hproc => simp [Config.move?, hproc] at hmove
    · rfl
  | crash pid =>
    simp only [next]
    split
    · next k l nxt hproc => simp [Config.move?, hproc] at hmove
    · rfl

theorem RunOk.mono {ok ok' : Move Λ φ η → σ → Prop} (h : ∀ m s, ok m s → ok' m s) :
    ∀ {xs : List (Choice φ κ η)} {c}, S.RunOk ok c xs → S.RunOk ok' c xs := by
  intro xs
  induction xs with
  | nil => intro c _; trivial
  | cons x xs ih => intro c hc; exact ⟨fun m hm => h _ _ (hc.1 m hm), ih hc.2⟩

theorem RunOk.of_forall {ok : Move Λ φ η → σ → Prop} (h : ∀ m s, ok m s) :
    ∀ (xs : List (Choice φ κ η)) (c : Config Λ Resp ε σ κ), S.RunOk ok c xs := by
  intro xs
  induction xs with
  | nil => intro c; trivial
  | cons x xs ih => intro c; exact ⟨fun m _ => h m _, ih _⟩

theorem RunOk.and {ok ok' : Move Λ φ η → σ → Prop} :
    ∀ {xs : List (Choice φ κ η)} {c}, S.RunOk ok c xs → S.RunOk ok' c xs →
      S.RunOk (fun m s => ok m s ∧ ok' m s) c xs := by
  intro xs
  induction xs with
  | nil => intro c _ _; trivial
  | cons x xs ih => intro c h h'; exact ⟨fun m hm => ⟨h.1 m hm, h'.1 m hm⟩, ih h.2 h'.2⟩

theorem RunOk.append {ok : Move Λ φ η → σ → Prop} :
    ∀ {xs ys : List (Choice φ κ η)} {c},
      S.RunOk ok c (xs ++ ys) ↔ S.RunOk ok c xs ∧ S.RunOk ok (S.run c xs) ys := by
  intro xs
  induction xs with
  | nil => intro ys c; simp [RunOk]
  | cons x xs ih => intro ys c; simp [RunOk, ih, and_assoc]

/-- **Invariant rule.** What holds at first and is kept by every admitted choice
holds after every admitted run. -/
theorem run_inv {ok : Move Λ φ η → σ → Prop} {I : Config Λ Resp ε σ κ → Prop}
    (hstep : ∀ c x, I c → (∀ m, c.move? x = some m → ok m c.shared) → I (S.next c x)) :
    ∀ {xs : List (Choice φ κ η)} {c}, I c → S.RunOk ok c xs → I (S.run c xs) := by
  intro xs
  induction xs with
  | nil => intro c hc _; exact hc
  | cons x xs ih => intro c hc hok; exact ih (hstep c x hc hok.1) hok.2

/-- Every choice of the run meets `ok` in the configuration before it. -/
def RunEach (S : System Λ Resp ε σ φ κ η) (ok : Config Λ Resp ε σ κ → Choice φ κ η → Prop) :
    Config Λ Resp ε σ κ → List (Choice φ κ η) → Prop
  | _, [] => True
  | c, x :: xs => ok c x ∧ RunEach S ok (S.next c x) xs

theorem RunEach.append {ok : Config Λ Resp ε σ κ → Choice φ κ η → Prop} :
    ∀ {xs ys : List (Choice φ κ η)} {c : Config Λ Resp ε σ κ}, S.RunEach ok c (xs ++ ys) →
      S.RunEach ok c xs ∧ S.RunEach ok (S.run c xs) ys := by
  intro xs
  induction xs with
  | nil => intro ys c h; exact ⟨trivial, h⟩
  | cons x xs ih =>
    intro ys c h
    obtain ⟨hxs, hys⟩ := ih h.2
    exact ⟨⟨h.1, hxs⟩, hys⟩

/-- A process after a choice: it was there, it has just started, or it has performed its action. -/
theorem next_proc {c : Config Λ Resp ε σ κ} {x : Choice φ κ η} {q : ℕ} {k : κ}
    {p : Prog Λ Resp ε Unit} (h : (S.next c x).procs q = some (k, p)) :
    c.procs q = some (k, p) ∨ (x = .start k ∧ p = S.body k) ∨
      ∃ i l nxt, x = .act q i ∧ c.procs q = some (k, .act l nxt) ∧
        p = nxt (S.sem q l i c.shared).1 ∧ (S.next c x).shared = (S.sem q l i c.shared).2 := by
  cases x with
  | start k' =>
    by_cases hq : q = c.count
    · subst hq
      simp only [next, Function.update_self, Option.some.injEq, Prod.mk.injEq] at h
      exact .inr (.inl ⟨by rw [h.1], by rw [← h.2, h.1]⟩)
    · simp only [next, Function.update_of_ne hq] at h
      exact .inl h
  | env e => exact .inl h
  | crash pid =>
    cases hmove : c.move? (.crash pid : Choice φ κ η) with
    | none =>
      rw [next_eq_self hmove (by simp)] at h
      exact .inl h
    | some m =>
      obtain ⟨k', l, nxt, hproc, -⟩ := move?_crash hmove
      simp only [next, hproc] at h
      by_cases hq : q = pid
      · subst hq
        simp at h
      · exact .inl (by simpa [Function.update_of_ne hq] using h)
  | act pid i =>
    cases hmove : c.move? (.act pid i : Choice φ κ η) with
    | none =>
      rw [next_eq_self hmove (by simp)] at h
      exact .inl h
    | some m =>
      obtain ⟨k', l, nxt, hproc, -⟩ := move?_act hmove
      simp only [next, hproc] at h ⊢
      by_cases hq : q = pid
      · subst hq
        rw [Function.update_self] at h
        obtain ⟨rfl, rfl⟩ := Prod.mk.inj (Option.some.inj h)
        exact .inr (.inr ⟨i, l, nxt, rfl, hproc, rfl, rfl⟩)
      · rw [Function.update_of_ne hq] at h
        exact .inl h

/-- **Step rule for a run.** An invariant that every admitted choice keeps, and under which an
admitted choice meets `goal`, gives `goal` for every choice of an admitted run. -/
theorem RunEach.of_inv {ok goal : Config Λ Resp ε σ κ → Choice φ κ η → Prop}
    {I : Config Λ Resp ε σ κ → Prop} (hstep : ∀ c x, I c → ok c x → goal c x ∧ I (S.next c x)) :
    ∀ {xs : List (Choice φ κ η)} {c}, I c → S.RunEach ok c xs → S.RunEach goal c xs := by
  intro xs
  induction xs with
  | nil => intro c _ _; trivial
  | cons x xs ih =>
    intro c hc hok
    obtain ⟨hgoal, hnext⟩ := hstep c x hc hok.1
    exact ⟨hgoal, ih hnext hok.2⟩

/-- The state after a move. -/
def after (S : System Λ Resp ε σ φ κ η) : Move Λ φ η → σ → σ
  | .act pid l i, s => (S.sem pid l i s).2
  | .crash pid, s => S.onCrash pid s
  | .env e, s => S.env e s

/-- Only moves change the shared state. -/
theorem next_shared (c : Config Λ Resp ε σ κ) (x : Choice φ κ η) :
    (S.next c x).shared = match c.move? x with
      | some m => S.after m c.shared
      | none => c.shared := by
  cases x with
  | start k => rfl
  | act pid i =>
    simp only [next, Config.move?]
    rcases c.procs pid with _ | ⟨k, p⟩
    · rfl
    · cases p <;> rfl
  | crash pid =>
    simp only [next, Config.move?]
    rcases c.procs pid with _ | ⟨k, p⟩
    · rfl
    · cases p <;> rfl
  | env e => rfl

/-- **Invariant rule for the shared state.** -/
theorem shared_inv {ok : Move Λ φ η → σ → Prop} {I : σ → Prop}
    (hstep : ∀ m s, I s → ok m s → I (S.after m s))
    {xs : List (Choice φ κ η)} {c : Config Λ Resp ε σ κ} (hc : I c.shared)
    (hok : S.RunOk ok c xs) : I (S.run c xs).shared := by
  refine run_inv (I := fun c => I c.shared) ?_ hc hok
  intro c x hI hx
  rw [next_shared]
  cases hm : c.move? x with
  | none => exact hI
  | some m => exact hstep m _ hI (hx m hm)

/-- The choices that let one process perform an action per fate. -/
def solo (pid : ℕ) (fates : List φ) : List (Choice φ κ η) := fates.map (.act pid)

/-- **A process that is scheduled often enough ends**, whatever its actions meet. -/
theorem exists_run_done (fate : ℕ → φ) (pid : ℕ) (k : κ) :
    ∀ (p : Prog Λ Resp ε Unit) (c : Config Λ Resp ε σ κ) (m : ℕ), c.procs pid = some (k, p) →
      ∃ n, (S.run c (solo pid ((List.range' m n).map fate))).finished pid = true := by
  intro p
  induction p with
  | ret a => intro c m hp; exact ⟨0, by simp [solo, Config.finished, hp, Prog.done]⟩
  | raise e => intro c m hp; exact ⟨0, by simp [solo, Config.finished, hp, Prog.done]⟩
  | act l nxt ih =>
    intro c m hp
    obtain ⟨n, hn⟩ := ih (S.sem pid l (fate m) c.shared).1 (S.next c (.act pid (fate m))) (m + 1)
      (by simp [next, hp])
    refine ⟨n + 1, ?_⟩
    simpa [solo, List.range'_succ] using hn

end System

end Conc
