import SheepContabil.Conc.Logic
import Mathlib.Data.List.Pairwise
import Mathlib.Data.List.Nodup

/-!
# Monitors of one process

A monitor watches the actions of one process and their answers. It says which action may come
next, from what it remembers of the earlier ones. A program is verified against it alone; what the
process does in any run of the system is then accepted, whoever acts in between.

* `System.trail`: what a process has performed in a run, with the answers.
* `Monitor.Accepts`: a trail that the monitor allows step by step.
* `Monitor.trail_accepts`: every trail of a process that is verified is accepted.
* `Monitor.ranked`: the monitor of a way, whose visits only go ahead.
-/

namespace Conc

variable {Λ : Type} {Resp : Λ → Type} {ε σ φ κ η α : Type}

namespace System

variable (S : System Λ Resp ε σ φ κ η) (pid : ℕ)

/-- What a choice lets the process perform. -/
def performed (c : Config Λ Resp ε σ κ) : Choice φ κ η → Option ((l : Λ) × Except ε (Resp l))
  | .act q i =>
    match c.procs q with
    | some (_, .act l _) => if q = pid then some ⟨l, (S.sem q l i c.shared).1⟩ else none
    | _ => none
  | _ => none

theorem performed_of_move {c : Config Λ Resp ε σ κ} {x : Choice φ κ η} (h : c.move? x = none) :
    S.performed pid c x = none := by
  cases x with
  | act q i =>
    simp only [Config.move?] at h
    simp only [performed]
    split
    · next hproc => simp [hproc] at h
    · rfl
  | _ => rfl

/-- Only a start adds a process. -/
theorem next_count {c : Config Λ Resp ε σ κ} {x : Choice φ κ η} (hx : ∀ k, x ≠ .start k) :
    (S.next c x).count = c.count := by
  cases x with
  | start k => exact absurd rfl (hx k)
  | env e => rfl
  | act q i =>
    simp only [next]
    split <;> rfl
  | crash q =>
    simp only [next]
    split <;> rfl

/-- What the process performs in a run, the oldest first. -/
def trail : Config Λ Resp ε σ κ → List (Choice φ κ η) → List ((l : Λ) × Except ε (Resp l))
  | _, [] => []
  | c, x :: xs => (S.performed pid c x).toList ++ trail (S.next c x) xs

end System

/-- What is remembered of the actions of a process, what may come next, and what is known of the
answers. -/
structure Monitor (Λ : Type) (Resp : Λ → Type) (ε M : Type) where
  allows : M → Λ → Prop
  answers : (l : Λ) → Except ε (Resp l) → Prop
  after : M → (l : Λ) → Except ε (Resp l) → M

namespace Monitor

variable {M : Type} (N : Monitor Λ Resp ε M)

/-- The contract of a process under the monitor: nobody else changes what is remembered. -/
def contract : Contract Λ Resp ε M where
  inv _ := True
  rely _ m m' := m' = m
  pre _ l m := N.allows m l
  effect _ l m r m' := N.answers l r ∧ m' = N.after m l r

/-- Every action of the trail may come after the earlier ones. -/
def Accepts : M → List ((l : Λ) × Except ε (Resp l)) → Prop
  | _, [] => True
  | m, ⟨l, r⟩ :: rest => N.allows m l ∧ Accepts (N.after m l r) rest

variable {N} {S : System Λ Resp ε σ φ κ η} {pid : ℕ} {m : M}

/-- One action. -/
theorem wp_monitored {l : Λ} {Q : Except ε (Resp l) → M → Prop} (hl : N.allows m l)
    (h : ∀ r, N.answers l r → Q r (N.after m l r)) : wp N.contract pid (.call l) Q m := by
  refine wp_call ?_
  rintro _ rfl -
  refine ⟨hl, ?_⟩
  rintro r _ ⟨hr, rfl⟩
  exact h r hr

/-- The process has not started, or it is verified for what it has left to do. -/
structure Watches (S : System Λ Resp ε σ φ κ η) (N : Monitor Λ Resp ε M) (pid : ℕ) (start : M)
    (c : Config Λ Resp ε σ κ) (m : M) : Prop where
  fresh : c.count ≤ pid → c.procs pid = none ∧ m = start
  left : ∀ k p, c.procs pid = some (k, p) → wp N.contract pid p (fun _ _ => True) m

/-- **One choice** of the scheduler, among processes whose answers are as the monitor knows. -/
theorem Watches.next {start : M} {c : Config Λ Resp ε σ κ} (h : Watches S N pid start c m)
    (hbody : ∀ k, wp N.contract pid (S.body k) (fun _ _ => True) start)
    (hanswers : ∀ l i, N.answers l (S.sem pid l i c.shared).1) (x : Choice φ κ η) :
    (S.performed pid c x = none ∧ Watches S N pid start (S.next c x) m) ∨
      ∃ l r, S.performed pid c x = some ⟨l, r⟩ ∧ N.allows m l ∧
        Watches S N pid start (S.next c x) (N.after m l r) := by
  cases x with
  | start k =>
    refine .inl ⟨rfl, fun hle => ?_, fun k' p hp => ?_⟩
    · have hlt : c.count < pid := hle
      obtain ⟨hnone, hm⟩ := h.fresh (Nat.le_of_lt hlt)
      refine ⟨?_, hm⟩
      show Function.update c.procs c.count _ pid = none
      rw [Function.update_of_ne (Nat.ne_of_gt hlt), hnone]
    · rcases System.next_proc hp with hp | ⟨hk, rfl⟩ | ⟨i, l, nxt, hk, -⟩
      · exact h.left k' p hp
      · -- the new process is at its start
        by_cases hpid : pid = c.count
        · rw [(h.fresh (Nat.le_of_eq hpid.symm)).2]
          exact hbody k'
        · change Function.update c.procs c.count _ pid = _ at hp
          rw [Function.update_of_ne hpid] at hp
          exact h.left k' _ hp
      · cases hk
  | env e =>
    refine .inl ⟨rfl, fun hle => h.fresh (System.next_count S (x := .env e) (by simp) ▸ hle), fun k p hp => ?_⟩
    exact h.left k p hp
  | crash q =>
    refine .inl ⟨rfl, fun hle => ?_, fun k p hp => ?_⟩
    · obtain ⟨hnone, hm⟩ := h.fresh (System.next_count S (x := .crash q) (by simp) ▸ hle)
      refine ⟨?_, hm⟩
      cases hnext : (S.next c (.crash q)).procs pid with
      | none => rfl
      | some kp =>
        obtain ⟨k, p⟩ := kp
        rcases System.next_proc hnext with hp | ⟨hk, -⟩ | ⟨i, l, nxt, hk, -⟩
        · rw [hnone] at hp
          cases hp
        · cases hk
        · cases hk
    · rcases System.next_proc hp with hp | ⟨hk, -⟩ | ⟨i, l, nxt, hk, -⟩
      · exact h.left k p hp
      · cases hk
      · cases hk
  | act q i =>
    cases hmove : c.move? (.act q i : Choice φ κ η) with
    | none =>
      refine .inl ⟨System.performed_of_move S pid hmove, ?_⟩
      rwa [System.next_eq_self hmove (by simp)]
    | some mv =>
      obtain ⟨k, l, nxt, hproc, -⟩ := System.move?_act hmove
      have hcount := System.next_count S (c := c) (x := .act q i) (by simp)
      by_cases hq : q = pid
      · subst hq
        obtain ⟨hallows, hnext⟩ := h.left k _ hproc m rfl trivial
        refine .inr ⟨l, (S.sem q l i c.shared).1, by simp [System.performed, hproc], hallows,
          fun hle => ?_, fun k' p' hp' => ?_⟩
        · rw [hcount] at hle
          cases hproc.symm.trans (h.fresh hle).1
        · have hp : (S.next c (.act q i)).procs q = some (k, nxt (S.sem q l i c.shared).1) := by
            simp [System.next, hproc]
          obtain ⟨rfl, rfl⟩ := Prod.mk.inj (Option.some.inj (hp.symm.trans hp'))
          exact hnext _ _ ⟨hanswers l i, rfl⟩
      · -- another process acts
        have hsame : (S.next c (.act q i)).procs pid = c.procs pid := by
          simp only [System.next, hproc]
          exact Function.update_of_ne (Ne.symm hq) _ _
        refine .inl ⟨by simp [System.performed, hproc, hq], fun hle => ?_,
          fun k p hp => h.left k p (hsame ▸ hp)⟩
        rw [hsame]
        exact h.fresh (hcount ▸ hle)

/-- **Every trail is accepted**, from any configuration in which the process is watched, while an
invariant of the state keeps the answers as the monitor knows them. -/
theorem accepts_run {start : M} {I : σ → Prop} (hI : ∀ m s, I s → I (S.after m s))
    (hbody : ∀ k, wp N.contract pid (S.body k) (fun _ _ => True) start)
    (hanswers : ∀ l i s, I s → N.answers l (S.sem pid l i s).1) :
    ∀ (xs : List (Choice φ κ η)) {c : Config Λ Resp ε σ κ} {m : M}, I c.shared →
      Watches S N pid start c m → N.Accepts m (S.trail pid c xs) := by
  intro xs
  induction xs with
  | nil => intro c m _ _; trivial
  | cons x xs ih =>
    intro c m hc h
    have hnext : I (S.next c x).shared := by
      rw [System.next_shared]
      split
      · exact hI _ _ hc
      · exact hc
    rw [System.trail]
    rcases h.next hbody (fun l i => hanswers l i c.shared hc) x with
      ⟨hnone, hw⟩ | ⟨l, r, hsome, hallows, hw⟩
    · rw [hnone]
      exact ih hnext hw
    · rw [hsome]
      exact ⟨hallows, ih hnext hw⟩

/-- **Every trail of a process is accepted**, in every run from the start. -/
theorem trail_accepts {start : M} {I : σ → Prop} (hI : ∀ m s, I s → I (S.after m s))
    (hbody : ∀ k, wp N.contract pid (S.body k) (fun _ _ => True) start)
    (hanswers : ∀ l i s, I s → N.answers l (S.sem pid l i s).1) {s : σ} (hs : I s)
    (xs : List (Choice φ κ η)) : N.Accepts start (S.trail pid (Config.idle s) xs) :=
  accepts_run hI hbody hanswers xs hs
    ⟨fun _ => ⟨rfl, rfl⟩, fun k p hp => by cases hp⟩

section Ranked

variable {β : Type} {visit : Λ → Option β} {rank : β → ℕ} {fits : ℕ → β → Prop}
  {known : (l : Λ) → Except ε (Resp l) → Prop}

/-- The monitor of a way: what an action visits lies ahead, and fits the place reached so far. -/
def ranked (visit : Λ → Option β) (rank : β → ℕ) (fits : ℕ → β → Prop)
    (known : (l : Λ) → Except ε (Resp l) → Prop) : Monitor Λ Resp ε ℕ where
  allows n l := ∀ b, visit l = some b → n ≤ rank b ∧ fits n b
  answers := known
  after n l _ := (visit l).elim n (rank · + 1)

/-- A program that visits nothing stays where it is. -/
theorem ranked_within {pid n : ℕ} {p : Prog Λ Resp ε α} (hp : p.Within fun l => visit l = none) :
    wp (ranked visit rank fits known).contract pid p (fun _ n' => n' = n) n := by
  refine wp_within_keeps (J := fun n' => n' = n) ?_ ?_ hp rfl
  · rintro m m' hm rfl
    exact hm
  · intro l m' hl hm' _
    refine ⟨fun b hb => ?_, ?_⟩
    · rw [hl] at hb
      cases hb
    · rintro r _ ⟨-, rfl⟩
      simp only [ranked, hl, Option.elim_none]
      exact hm'

/-- An action that visits nothing, and the rest of the program. -/
theorem ranked_bind {γ : Type} {pid n : ℕ} {l : Λ} (hl : visit l = none) {k : Resp l → Prog Λ Resp ε γ}
    {Q : Except ε γ → ℕ → Prop} (herror : ∀ e, Q (.error e) n)
    (hk : ∀ a, known l (.ok a) → wp (ranked visit rank fits known).contract pid (k a) Q n) :
    wp (ranked visit rank fits known).contract pid ((Prog.call l).bind k) Q n := by
  refine wp_bind (wp_monitored (N := ranked visit rank fits known) (fun b hb => ?_) fun r hr => ?_)
  · rw [hl] at hb
    cases hb
  · have hafter : (ranked visit rank fits known).after n l r = n := by
      simp only [ranked, hl, Option.elim_none]
    rw [hafter]
    cases r with
    | error e => exact herror e
    | ok a => exact hk a hr

/-- Visits that go the way from a place on. -/
def Goes (rank : β → ℕ) (fits : ℕ → β → Prop) : ℕ → List β → Prop
  | _, [] => True
  | n, b :: rest => n ≤ rank b ∧ fits n b ∧ Goes rank fits (rank b + 1) rest

/-- A trail that the monitor accepts goes the way. -/
theorem ranked_goes {trail : List ((l : Λ) × Except ε (Resp l))} {n : ℕ}
    (h : (ranked visit rank fits known).Accepts n trail) :
    Goes rank fits n (trail.filterMap fun x => visit x.1) := by
  induction trail generalizing n with
  | nil => trivial
  | cons x rest ih =>
    obtain ⟨l, r⟩ := x
    obtain ⟨hallows, hrest⟩ := h
    have hgoes := ih hrest
    cases hvisit : visit l with
    | none =>
      have hcons : (⟨l, r⟩ :: rest).filterMap (fun x => visit x.1) =
          rest.filterMap fun x => visit x.1 := List.filterMap_cons_none hvisit
      simpa [hcons, ranked, hvisit] using hgoes
    | some b =>
      have hcons : (⟨l, r⟩ :: rest).filterMap (fun x => visit x.1) =
          b :: rest.filterMap fun x => visit x.1 := List.filterMap_cons_some hvisit
      obtain ⟨hle, hfits⟩ := hallows b hvisit
      rw [hcons]
      exact ⟨hle, hfits, by simpa [ranked, hvisit] using hgoes⟩

/-- The ranks rise along the way. -/
theorem Goes.pairwise {visits : List β} {n : ℕ} (h : Goes rank fits n visits) :
    (visits.Pairwise fun b b' => rank b < rank b') ∧ ∀ b ∈ visits, n ≤ rank b := by
  induction visits generalizing n with
  | nil => exact ⟨List.Pairwise.nil, fun b hb => by cases hb⟩
  | cons b rest ih =>
    obtain ⟨hle, -, hrest⟩ := h
    obtain ⟨hpairwise, hlater⟩ := ih hrest
    refine ⟨List.pairwise_cons.2 ⟨fun b' hb' => hlater b' hb', hpairwise⟩, fun b' hb' => ?_⟩
    rcases List.mem_cons.1 hb' with rfl | hb'
    · exact hle
    · exact Nat.le_trans hle (Nat.le_of_lt (hlater b' hb'))

/-- A visit fits the place right behind the visit before it. -/
theorem Goes.fits_at {before after : List β} {b : β} {n : ℕ}
    (h : Goes rank fits n (before ++ b :: after)) : fits (before.getLast?.elim n (rank · + 1)) b := by
  induction before generalizing n with
  | nil => exact h.2.1
  | cons b' before ih =>
    have hfits := ih h.2.2
    rw [List.getLast?_cons, Option.elim_some]
    cases hlast : before.getLast? with
    | none => simpa [hlast] using hfits
    | some last => simpa [hlast] using hfits

end Ranked

end Monitor

end Conc
