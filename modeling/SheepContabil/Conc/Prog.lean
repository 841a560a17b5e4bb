import Mathlib.Logic.Basic
import Mathlib.Tactic.Common

/-!
# Programs of atomic actions

`Prog Λ Resp ε α` is a sequential program. It performs atomic actions `l : Λ`,
each answered by a value of `Resp l` or by an exception, and ends by returning
an `α` or raising an `ε`. What an action does to the shared state is not part of
the program: a `System` says it.

* `Prog.bind`, `Prog.tryCatch`, `Prog.attempt`, `Prog.tryFinally`: sequencing and
  the exception handlers of a language with `try`/`except`/`finally`.
* `Prog.forM'`: the loop over a list.
* `Prog.Within`: every action of a program lies in a set.
* `Prog.Awaits`: a program performs no action of one kind before one of another has answered.
-/

namespace Conc

/-- A program over the actions `Λ`; a leaf is a return or a raise. -/
inductive Prog (Λ : Type) (Resp : Λ → Type) (ε α : Type) : Type where
  | ret (a : α)
  | raise (e : ε)
  | act (l : Λ) (next : Except ε (Resp l) → Prog Λ Resp ε α)

namespace Prog

variable {Λ : Type} {Resp : Λ → Type} {ε α β γ : Type}

/-- Run `p`, then `k` on its result. An exception of `p` skips `k`. -/
def bind : Prog Λ Resp ε α → (α → Prog Λ Resp ε β) → Prog Λ Resp ε β
  | ret a, k => k a
  | raise e, _ => raise e
  | act l next, k => act l fun r => (next r).bind k

instance : Monad (Prog Λ Resp ε) where
  pure := ret
  bind := bind

/-- One action, whose exception is raised. -/
def call (l : Λ) : Prog Λ Resp ε (Resp l) :=
  act l fun
    | .ok b => ret b
    | .error e => raise e

/-- `try p except h`. -/
def tryCatch : Prog Λ Resp ε α → (ε → Prog Λ Resp ε α) → Prog Λ Resp ε α
  | ret a, _ => ret a
  | raise e, h => h e
  | act l next, h => act l fun r => (next r).tryCatch h

/-- `try p finally c`: `c` runs on both exits, and an exception of `c` wins. -/
def tryFinally : Prog Λ Resp ε α → Prog Λ Resp ε Unit → Prog Λ Resp ε α
  | ret a, c => c.bind fun _ => ret a
  | raise e, c => c.bind fun _ => raise e
  | act l next, c => act l fun r => (next r).tryFinally c

/-- `p` with its exception turned into a result: the statement of a `try` whose
handler and `else` branch both go on. -/
def attempt : Prog Λ Resp ε α → Prog Λ Resp ε (Except ε α)
  | ret a => ret (.ok a)
  | raise e => ret (.error e)
  | act l next => act l fun r => (next r).attempt

/-- The loop `for x in xs: f x`. -/
def forM' (f : β → Prog Λ Resp ε Unit) : List β → Prog Λ Resp ε Unit
  | [] => ret ()
  | x :: xs => (f x).bind fun _ => forM' f xs

/-- A pure computation that may raise. -/
def ofExcept : Except ε α → Prog Λ Resp ε α
  | .ok a => ret a
  | .error e => raise e

/-- The program run alone, one action for each choice: what is left of it, and the state. -/
def alone {σ φ : Type} (sem : (l : Λ) → φ → σ → Except ε (Resp l) × σ) :
    Prog Λ Resp ε α → List φ → σ → Prog Λ Resp ε α × σ
  | act l next, i :: fates, s => (next (sem l i s).1).alone sem fates (sem l i s).2
  | p, _, s => (p, s)

/-- The program has returned or raised. -/
def done : Prog Λ Resp ε α → Bool
  | act _ _ => false
  | _ => true

/-- The action the program performs next. -/
def label? : Prog Λ Resp ε α → Option Λ
  | act l _ => some l
  | _ => none

@[simp] theorem pure_eq (a : α) : (pure a : Prog Λ Resp ε α) = ret a := rfl

@[simp] theorem bind_eq (p : Prog Λ Resp ε α) (k : α → Prog Λ Resp ε β) : p >>= k = p.bind k := rfl

@[simp] theorem ret_bind (a : α) (k : α → Prog Λ Resp ε β) : (ret a).bind k = k a := rfl

@[simp] theorem raise_bind (e : ε) (k : α → Prog Λ Resp ε β) :
    (raise e : Prog Λ Resp ε α).bind k = raise e := rfl

@[simp] theorem ret_tryCatch (a : α) (h : ε → Prog Λ Resp ε α) : (ret a).tryCatch h = ret a := rfl

@[simp] theorem raise_tryCatch (e : ε) (h : ε → Prog Λ Resp ε α) : (raise e).tryCatch h = h e := rfl

theorem bind_ret (p : Prog Λ Resp ε α) : p.bind ret = p := by
  induction p with
  | ret a => rfl
  | raise e => rfl
  | act l next ih => exact congrArg (act l) (funext ih)

/-- Every action the program may perform satisfies `A`. -/
def Within (A : Λ → Prop) : Prog Λ Resp ε α → Prop
  | act l next => A l ∧ ∀ r, (next r).Within A
  | _ => True

section Within

variable {A : Λ → Prop}

@[simp] theorem within_ret (a : α) : (ret a : Prog Λ Resp ε α).Within A := trivial

@[simp] theorem within_raise (e : ε) : (raise e : Prog Λ Resp ε α).Within A := trivial

@[simp] theorem within_call {l : Λ} : (call l : Prog Λ Resp ε (Resp l)).Within A ↔ A l := by
  simp only [call, Within, and_iff_left_iff_imp]
  rintro - (e | b) <;> trivial

theorem within_mono {B : Λ → Prop} (h : ∀ l, A l → B l) {p : Prog Λ Resp ε α} (hp : p.Within A) :
    p.Within B := by
  induction p with
  | ret a => trivial
  | raise e => trivial
  | act l next ih => exact ⟨h l hp.1, fun r => ih r (hp.2 r)⟩

theorem within_and {B : Λ → Prop} {p : Prog Λ Resp ε α} (hp : p.Within A) (hq : p.Within B) :
    p.Within fun l => A l ∧ B l := by
  induction p with
  | ret a => trivial
  | raise e => trivial
  | act l next ih => exact ⟨⟨hp.1, hq.1⟩, fun r => ih r (hp.2 r) (hq.2 r)⟩

theorem within_bind {p : Prog Λ Resp ε α} {k : α → Prog Λ Resp ε β} (hp : p.Within A)
    (hk : ∀ a, (k a).Within A) : (p.bind k).Within A := by
  induction p with
  | ret a => exact hk a
  | raise e => trivial
  | act l next ih => exact ⟨hp.1, fun r => ih r (hp.2 r)⟩

/-- An action, and the rest of the program. -/
theorem within_call_bind {l : Λ} {k : Resp l → Prog Λ Resp ε β} (hl : A l)
    (hk : ∀ a, (k a).Within A) : ((call l).bind k).Within A :=
  within_bind (within_call.2 hl) hk

theorem within_tryCatch {p : Prog Λ Resp ε α} {h : ε → Prog Λ Resp ε α} (hp : p.Within A)
    (hh : ∀ e, (h e).Within A) : (p.tryCatch h).Within A := by
  induction p with
  | ret a => trivial
  | raise e => exact hh e
  | act l next ih => exact ⟨hp.1, fun r => ih r (hp.2 r)⟩

theorem within_attempt {p : Prog Λ Resp ε α} (hp : p.Within A) : p.attempt.Within A := by
  induction p with
  | ret a => trivial
  | raise e => trivial
  | act l next ih => exact ⟨hp.1, fun r => ih r (hp.2 r)⟩

theorem within_tryFinally {p : Prog Λ Resp ε α} {c : Prog Λ Resp ε Unit} (hp : p.Within A)
    (hc : c.Within A) : (p.tryFinally c).Within A := by
  induction p with
  | ret a => exact within_bind hc fun _ => trivial
  | raise e => exact within_bind hc fun _ => trivial
  | act l next ih => exact ⟨hp.1, fun r => ih r (hp.2 r)⟩

end Within

/-- The program performs no action of `goal`, and returns only a value of `Q`, before an action of
`mark` has answered. An exception may end it. -/
def Awaits (mark goal : Λ → Prop) (Q : α → Prop) : Prog Λ Resp ε α → Prop
  | ret a => Q a
  | raise _ => True
  | act l next => ¬ goal l ∧ (∀ e, (next (.error e)).Awaits mark goal Q) ∧
      (¬ mark l → ∀ b, (next (.ok b)).Awaits mark goal Q)

section Awaits

variable {mark goal : Λ → Prop} {Q : α → Prop} {R : β → Prop}

theorem awaits_of_within {p : Prog Λ Resp ε α} (hp : p.Within fun l => ¬ goal l) :
    p.Awaits mark goal fun _ => True := by
  induction p with
  | ret a => trivial
  | raise e => trivial
  | act l next ih => exact ⟨hp.1, fun e => ih _ (hp.2 _), fun _ b => ih _ (hp.2 _)⟩

theorem awaits_mark {l : Λ} (hmark : mark l) (hgoal : ¬ goal l) :
    (call l : Prog Λ Resp ε (Resp l)).Awaits mark goal fun _ => False :=
  ⟨hgoal, fun _ => trivial, fun h => absurd hmark h⟩

theorem awaits_bind {p : Prog Λ Resp ε α} {k : α → Prog Λ Resp ε β} (hp : p.Awaits mark goal Q)
    (hk : ∀ a, Q a → (k a).Awaits mark goal R) : (p.bind k).Awaits mark goal R := by
  induction p with
  | ret a => exact hk a hp
  | raise e => trivial
  | act l next ih => exact ⟨hp.1, fun e => ih _ (hp.2.1 e), fun hl b => ih _ (hp.2.2 hl b)⟩

theorem awaits_tryCatch {p : Prog Λ Resp ε α} {h : ε → Prog Λ Resp ε α} (hp : p.Awaits mark goal Q)
    (hh : ∀ e, (h e).Awaits mark goal Q) : (p.tryCatch h).Awaits mark goal Q := by
  induction p with
  | ret a => exact hp
  | raise e => exact hh e
  | act l next ih => exact ⟨hp.1, fun e => ih _ (hp.2.1 e), fun hl b => ih _ (hp.2.2 hl b)⟩

end Awaits

end Prog

end Conc
