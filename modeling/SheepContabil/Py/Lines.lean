import Mathlib.Data.List.Chain
import Mathlib.Data.List.Infix
import SheepContabil.Py.Str

/-!
# The words and the lines of a text

`str.split`, `str.splitlines` and the substitutions that change blanks only, for any class of
characters as the blanks.

* `words`: `str.split`.
* `Respaced`: two texts that differ in their blanks only, and never by a whole gap.
* `squeeze`: `re.sub(r"x{n,}", ...)`, which keeps the start of each run.
* `splitLines`: `str.splitlines`, and `lines_induction`, the induction on the lines of a text.
* `rstripLines`: each line without the blanks at its end.
-/

namespace Py

section Words

variable {α : Type} {p : α → Bool} {a b s t u v w : List α} {c d : α}

/-- `str.split`: the longest runs outside the class. -/
def words (p : α → Bool) (t : List α) : List (List α) := (t.splitOnP p).filter fun w => !w.isEmpty

theorem words_append_cons (hc : p c = true) : words p (a ++ c :: b) = words p a ++ words p b := by
  rw [words, List.splitOnP_append_cons _ _ hc, List.filter_append]
  rfl

@[simp] theorem words_nil : words p ([] : List α) = [] := rfl

theorem words_blank_cons (hc : p c = true) : words p (c :: b) = words p b :=
  words_append_cons (a := []) hc

theorem words_append_blanks (hs : ∀ c ∈ s, p c = true) : words p (a ++ s) = words p a := by
  induction s generalizing a with
  | nil => rw [List.append_nil]
  | cons c s ih =>
    have hrest := ih (a := []) fun d hd => hs d (List.mem_cons_of_mem _ hd)
    rw [words_append_cons (hs c List.mem_cons_self)]
    rw [List.nil_append] at hrest
    rw [hrest, words_nil, List.append_nil]

theorem words_blanks_append (hs : ∀ c ∈ s, p c = true) : words p (s ++ a) = words p a := by
  induction s with
  | nil => rfl
  | cons c s ih =>
    rw [List.cons_append, words_blank_cons (hs c List.mem_cons_self)]
    exact ih fun d hd => hs d (List.mem_cons_of_mem _ hd)

/-- A gap between two texts. -/
theorem words_append_gap (hne : s ≠ []) (hs : ∀ c ∈ s, p c = true) :
    words p (a ++ (s ++ b)) = words p a ++ words p b := by
  cases s with
  | nil => exact absurd rfl hne
  | cons c s =>
    rw [List.cons_append, words_append_cons (hs c List.mem_cons_self),
      words_blanks_append fun d hd => hs d (List.mem_cons_of_mem _ hd)]

/-- A text without a word is blank. -/
theorem words_eq_nil (h : words p t = []) : ∀ c ∈ t, p c = true := by
  induction t with
  | nil => intro c hc; cases hc
  | cons d t ih =>
    have hd : p d = true := by
      by_contra hd
      rw [Bool.not_eq_true] at hd
      rw [words, List.splitOnP_cons_eq_if_modifyHead, hd] at h
      obtain ⟨x, xs, hsplit⟩ := List.exists_cons_of_ne_nil (List.splitOnP_ne_nil p t)
      rw [hsplit] at h
      simp at h
    rw [words_blank_cons hd] at h
    intro c hc
    rcases List.mem_cons.1 hc with rfl | hc
    · exact hd
    · exact ih h c hc

/-- The blanks at the start of a text. -/
theorem exists_append_dropWhile (t : List α) : ∃ s, (∀ c ∈ s, p c = true) ∧ t = s ++ t.dropWhile p :=
  ⟨t.takeWhile p, fun _ hc => List.mem_takeWhile_imp hc, (List.takeWhile_append_dropWhile).symm⟩

/-- The blanks at the end of a text. -/
theorem exists_rdropWhile_append (t : List α) :
    ∃ s, (∀ c ∈ s, p c = true) ∧ t = t.rdropWhile p ++ s := by
  refine ⟨t.rtakeWhile p, fun c hc => List.mem_rtakeWhile_imp hc, ?_⟩
  rw [List.rdropWhile, List.rtakeWhile, ← List.reverse_append, List.takeWhile_append_dropWhile,
    List.reverse_reverse]

theorem words_stripOf : words p (stripOf p t) = words p t := by
  obtain ⟨s, hs, hdrop⟩ := exists_append_dropWhile (p := p) t
  obtain ⟨s', hs', hrdrop⟩ := exists_rdropWhile_append (p := p) (t.dropWhile p)
  calc words p (stripOf p t) = words p (stripOf p t ++ s') := (words_append_blanks hs').symm
    _ = words p (t.dropWhile p) := by rw [stripOf, ← hrdrop]
    _ = words p (s ++ t.dropWhile p) := (words_blanks_append hs).symm
    _ = words p t := by rw [← hdrop]

end Words

section Respaced

variable {α : Type} {p : α → Bool} {s s' t u v w : List α} {c d : α}

/-- The texts have the same characters outside the class, and a gap between two of them in one text
is a gap in the other. -/
inductive Respaced (p : α → Bool) : List α → List α → Prop
  | tail {s s' : List α} (hs : ∀ c ∈ s, p c = true) (hs' : ∀ c ∈ s', p c = true) : Respaced p s s'
  | keep {c : α} {u v : List α} (hc : p c = false) (h : Respaced p u v) :
      Respaced p (c :: u) (c :: v)
  | gap {s s' u v : List α} (hne : s ≠ []) (hne' : s' ≠ []) (hs : ∀ c ∈ s, p c = true)
      (hs' : ∀ c ∈ s', p c = true) (h : Respaced p u v) : Respaced p (s ++ u) (s' ++ v)

namespace Respaced

/-- A blank stands for a blank. -/
theorem blank (hc : p c = true) (hd : p d = true) (h : Respaced p u v) :
    Respaced p (c :: u) (d :: v) := by
  have hc : ∀ e ∈ [c], p e = true := by simpa using hc
  have hd : ∀ e ∈ [d], p e = true := by simpa using hd
  exact gap (List.cons_ne_nil _ _) (List.cons_ne_nil _ _) hc hd h

theorem cons (c : α) (h : Respaced p u v) : Respaced p (c :: u) (c :: v) := by
  cases hc : p c with
  | true => exact blank hc hc h
  | false => exact keep hc h

theorem append_left (w : List α) (h : Respaced p u v) : Respaced p (w ++ u) (w ++ v) := by
  induction w with
  | nil => exact h
  | cons c w ih => exact cons c ih

/-- The blanks at the end of a text. -/
theorem append_tail (t : List α) (hs : ∀ c ∈ s, p c = true) : Respaced p (t ++ s) t := by
  have hnil : ∀ c ∈ ([] : List α), p c = true := fun c hc => by cases hc
  have h := append_left t (tail hs hnil)
  rwa [List.append_nil] at h

/-- A blank more in a gap. -/
theorem widen (hc : p c = true) (hd : p d = true) (h : Respaced p (d :: u) v) :
    Respaced p (c :: d :: u) v := by
  generalize ht : d :: u = t at h
  cases h with
  | tail hs hs' => exact tail (List.forall_mem_cons.2 ⟨hc, hs⟩) hs'
  | keep hkeep h =>
    obtain ⟨rfl, rfl⟩ := List.cons.inj ht
    rw [hd] at hkeep
    cases hkeep
  | gap hne hne' hs hs' h =>
    rw [← List.cons_append]
    exact gap (by simp) hne' (List.forall_mem_cons.2 ⟨hc, hs⟩) hs' h

theorem refl (t : List α) : Respaced p t t := by
  have hnil : ∀ c ∈ ([] : List α), p c = true := fun c hc => by cases hc
  have h := append_left t (tail hnil hnil)
  rwa [List.append_nil] at h

/-- A character outside the class stands in both texts. -/
theorem cons_inv (hc : p c = false) (h : Respaced p (c :: u) t) :
    ∃ v, t = c :: v ∧ Respaced p u v := by
  generalize hcu : c :: u = s at h
  cases h with
  | tail hs hs' =>
    have hblank := hs c (hcu ▸ List.mem_cons_self)
    rw [hc] at hblank
    cases hblank
  | keep hkeep h =>
    obtain ⟨rfl, rfl⟩ := List.cons.inj hcu
    exact ⟨_, rfl, h⟩
  | @gap s s' u' v hne hne' hs hs' h =>
    obtain ⟨d, s, rfl⟩ := List.exists_cons_of_ne_nil hne
    obtain ⟨rfl, -⟩ := List.cons.inj hcu
    rw [hs c List.mem_cons_self] at hc
    cases hc

/-- The texts start alike, for a class with no blank in it. -/
theorem head_any {q : α → Bool} (hq : ∀ c, p c = true → q c = false) (h : Respaced p u v) :
    u.head?.any q = v.head?.any q := by
  have hblank : ∀ s t : List α, (∀ c ∈ s, p c = true) → (s = [] → t = []) →
      (s ++ t).head?.any q = false := by
    intro s t hs hnil
    cases s with
    | nil => rw [hnil rfl]; rfl
    | cons c s => exact hq c (hs c List.mem_cons_self)
  cases h with
  | tail hs hs' =>
    have h := hblank u [] hs fun _ => rfl
    have h' := hblank v [] hs' fun _ => rfl
    rw [List.append_nil] at h h'
    rw [h, h']
  | keep hc h => rfl
  | gap hne hne' hs hs' h =>
    rw [hblank _ _ hs fun hnil => absurd hnil hne, hblank _ _ hs' fun hnil => absurd hnil hne']

/-- What is left of both texts without the start in a class with the blanks in it. -/
theorem dropWhile {q : α → Bool} (hq : ∀ c, p c = true → q c = true) (h : Respaced p u v) :
    Respaced p (u.dropWhile q) (v.dropWhile q) := by
  have hdrop : ∀ s t : List α, (∀ c ∈ s, p c = true) →
      (s ++ t).dropWhile q = t.dropWhile q := fun s t hs =>
    List.dropWhile_append_of_pos fun c hc => hq c (hs c hc)
  induction h with
  | @tail s s' hs hs' =>
    have h := hdrop s [] hs
    have h' := hdrop s' [] hs'
    rw [List.append_nil] at h h'
    rw [h, h']
    exact refl _
  | @keep c u v hc h ih =>
    by_cases hqc : q c = true
    · rw [List.dropWhile_cons_of_pos hqc, List.dropWhile_cons_of_pos hqc]
      exact ih
    · rw [List.dropWhile_cons_of_neg hqc, List.dropWhile_cons_of_neg hqc]
      exact keep hc h
  | gap hne hne' hs hs' h ih => rwa [hdrop _ _ hs, hdrop _ _ hs']

/-- The characters of a class with no blank in it. -/
theorem filter_eq {q : α → Bool} (hq : ∀ c, p c = true → q c = false) (h : Respaced p u v) :
    u.filter q = v.filter q := by
  have hnone : ∀ s : List α, (∀ c ∈ s, p c = true) → s.filter q = [] := by
    intro s hs
    refine List.filter_eq_nil_iff.2 fun c hc => ?_
    rw [hq c (hs c hc)]
    exact Bool.false_ne_true
  induction h with
  | tail hs hs' => rw [hnone _ hs, hnone _ hs']
  | keep hc h ih => rw [List.filter_cons, List.filter_cons, ih]
  | gap hne hne' hs hs' h ih =>
    rw [List.filter_append, List.filter_append, hnone _ hs, hnone _ hs', ih]

/-- **The words are the same**, also after a start of a word. -/
theorem words_append (h : Respaced p u v) : ∀ w, words p (w ++ u) = words p (w ++ v) := by
  induction h with
  | tail hs hs' => intro w; rw [words_append_blanks hs, words_append_blanks hs']
  | @keep c u v hc h ih =>
    intro w
    rw [List.append_cons w c u, List.append_cons w c v]
    exact ih _
  | gap hne hne' hs hs' h ih =>
    intro w
    rw [words_append_gap hne hs, words_append_gap hne' hs']
    exact congrArg _ (ih [])

theorem words_eq (h : Respaced p u v) : words p u = words p v := h.words_append []

end Respaced

end Respaced

section Squeeze

variable {α : Type} [DecidableEq α] {p : α → Bool} {x : α} {most : ℕ} {t : List α}

/-- The rest of a text, after so many of `x`. -/
def squeezeFrom (x : α) (most : ℕ) : ℕ → List α → List α
  | _, [] => []
  | k, c :: rest =>
    if c = x then (if k < most then [x] else []) ++ squeezeFrom x most (k + 1) rest
    else c :: squeezeFrom x most 0 rest

/-- The runs of `x` cut to a length: `re.sub(r"\n{3,}", "\n\n", text)` leaves two. -/
def squeeze (x : α) (most : ℕ) (t : List α) : List α := squeezeFrom x most 0 t

theorem mem_squeezeFrom {c : α} : ∀ {k}, c ∈ squeezeFrom x most k t → c ∈ t := by
  induction t with
  | nil => intro k h; cases h
  | cons d t ih =>
    intro k h
    rw [squeezeFrom] at h
    by_cases hd : d = x
    · rw [if_pos hd, List.mem_append] at h
      rcases h with h | h
      · split at h
        · rw [List.mem_singleton.1 h, ← hd]
          exact List.mem_cons_self
        · cases h
      · exact List.mem_cons_of_mem _ (ih h)
    · rw [if_neg hd, List.mem_cons] at h
      exact List.mem_cons.2 (h.imp_right ih)

theorem respaced_squeezeFrom (hx : p x = true) (hmost : 0 < most) (t : List α) :
    Respaced p t (squeezeFrom x most 0 t) ∧
      ∀ k, Respaced p (x :: t) (x :: squeezeFrom x most (k + 1) t) := by
  have hblank : ∀ c ∈ [x], p c = true := by simpa using hx
  induction t with
  | nil => exact ⟨.tail (by simp) (by simp [squeezeFrom]), fun k => .tail hblank hblank⟩
  | cons d t ih =>
    by_cases hd : d = x
    · subst hd
      simp only [squeezeFrom, if_true, if_pos hmost]
      refine ⟨ih.2 0, fun k => ?_⟩
      split
      · exact .blank hx hx (ih.2 (k + 1))
      · exact .widen hx hx (ih.2 (k + 1))
    · simp only [squeezeFrom, if_neg hd]
      exact ⟨.cons d ih.1, fun k => .blank hx hx (.cons d ih.1)⟩

/-- A substitution in the gaps keeps one blank of each. -/
theorem respaced_squeeze (hx : p x = true) (hmost : 0 < most) (t : List α) :
    Respaced p t (squeeze x most t) :=
  (respaced_squeezeFrom hx hmost t).1

end Squeeze

section Runs

variable {α : Type} {x : α}

theorem replicate_prefix_append_cons {a b : List α} {c : α} (hc : c ≠ x) :
    ∀ {n}, List.replicate n x <+: a ++ c :: b → List.replicate n x <+: a := by
  induction a with
  | nil =>
    intro n h
    cases n with
    | zero => exact List.nil_prefix
    | succ n =>
      rw [List.replicate_succ, List.nil_append, List.cons_prefix_cons] at h
      exact absurd h.1.symm hc
  | cons d a ih =>
    intro n h
    cases n with
    | zero => exact List.nil_prefix
    | succ n =>
      rw [List.replicate_succ, List.cons_append, List.cons_prefix_cons] at h
      rw [List.replicate_succ, List.cons_prefix_cons]
      exact ⟨h.1, ih h.2⟩

/-- A run of `x` in a text does not go past another character. -/
theorem replicate_infix_append_cons {n : ℕ} {a b : List α} {c : α} (hc : c ≠ x)
    (h : List.replicate n x <:+: a ++ c :: b) :
    List.replicate n x <:+: a ∨ List.replicate n x <:+: b := by
  induction a with
  | nil =>
    rw [List.nil_append, List.infix_cons_iff] at h
    refine h.imp_left fun h => ?_
    exact (replicate_prefix_append_cons (a := []) hc h).isInfix
  | cons d a ih =>
    rw [List.cons_append, List.infix_cons_iff] at h
    rcases h with h | h
    · exact .inl (replicate_prefix_append_cons (a := d :: a) hc h).isInfix
    · exact (ih h).imp_left List.infix_cons

variable [DecidableEq α]

theorem squeezeFrom_run (x : α) (most : ℕ) (t : List α) : ∀ k,
    ¬ List.replicate (most + 1) x <:+: List.replicate (min k most) x ++ squeezeFrom x most k t := by
  induction t with
  | nil =>
    intro k h
    rw [squeezeFrom, List.append_nil] at h
    have hlength := h.length_le
    rw [List.length_replicate, List.length_replicate] at hlength
    omega
  | cons c t ih =>
    intro k h
    by_cases hc : c = x
    · subst hc
      rw [squeezeFrom, if_pos rfl] at h
      refine ih (k + 1) ?_
      split at h
      · next hk =>
        rw [min_eq_left (by omega), List.singleton_append, List.append_cons,
          ← List.replicate_succ'] at h
        rwa [min_eq_left (by omega)]
      · next hk =>
        rw [min_eq_right (by omega)] at h ⊢
        exact h
    · rw [squeezeFrom, if_neg hc] at h
      rcases replicate_infix_append_cons hc h with h | h
      · have hlength := h.length_le
        rw [List.length_replicate, List.length_replicate] at hlength
        omega
      · refine ih 0 ?_
        simpa using h

/-- No run is longer. -/
theorem squeeze_run (x : α) (most : ℕ) (t : List α) :
    ¬ List.replicate (most + 1) x <:+: squeeze x most t := by
  have h := squeezeFrom_run x most t 0
  rwa [Nat.zero_min, List.replicate_zero, List.nil_append] at h

theorem squeezeFrom_eq_self {most : ℕ} {t : List α} : ∀ {k}, k ≤ most →
    ¬ List.replicate (most + 1) x <:+: List.replicate k x ++ t → squeezeFrom x most k t = t := by
  induction t with
  | nil => intro k _ _; rfl
  | cons c t ih =>
    intro k hk h
    by_cases hc : c = x
    · subst hc
      have hrun : List.replicate k c ++ c :: t = List.replicate (k + 1) c ++ t := by
        rw [List.append_cons, ← List.replicate_succ']
      rw [hrun] at h
      have hlt : k < most := by
        refine lt_of_le_of_ne hk fun heq => h ?_
        rw [heq]
        exact List.infix_append_left
      rw [squeezeFrom, if_pos rfl, if_pos hlt, ih hlt h]
      rfl
    · rw [squeezeFrom, if_neg hc, ih (Nat.zero_le _) fun hrun => h ?_]
      rw [List.append_cons]
      exact List.infix_append_of_infix_right hrun

/-- A text with no longer run is left as it is. -/
theorem squeeze_eq_self {most : ℕ} {t : List α} (h : ¬ List.replicate (most + 1) x <:+: t) :
    squeeze x most t = t :=
  squeezeFrom_eq_self (Nat.zero_le _) h

theorem isChain_squeezeFrom {R : α → α → Prop} (hx : ∀ c, R x c) {most : ℕ} (hmost : 0 < most)
    {t : List α} (h : t.IsChain R) : ∀ k, (squeezeFrom x most k t).IsChain R := by
  induction t with
  | nil => intro k; exact List.isChain_nil
  | cons c t ih =>
    intro k
    rw [List.isChain_cons] at h
    by_cases hc : c = x
    · rw [squeezeFrom, if_pos hc]
      split
      · exact List.isChain_cons.2 ⟨fun y _ => hx y, ih h.2 _⟩
      · exact ih h.2 _
    · rw [squeezeFrom, if_neg hc, List.isChain_cons]
      refine ⟨fun y hy => h.1 y ?_, ih h.2 0⟩
      -- the next character is kept
      cases t with
      | nil => exact hy
      | cons d t =>
        rw [squeezeFrom] at hy
        by_cases hd : d = x
        · rw [if_pos hd, if_pos hmost] at hy
          rw [hd]
          exact hy
        · rwa [if_neg hd] at hy

end Runs

section Lines

/-- What ends a line in `str.splitlines`. -/
def isLineBreak (c : Char) : Bool :=
  let n := c.toNat
  (10 ≤ n && n ≤ 13) || (28 ≤ n && n ≤ 30) || n == 0x85 || n == 0x2028 || n == 0x2029

/-- A character at the start of the first line. -/
def consLine (c : Char) : List (List Char) → List (List Char)
  | [] => [[c]]
  | line :: lines => (c :: line) :: lines

/-- `str.splitlines`. -/
def splitLines : List Char → List (List Char)
  | [] => []
  | '\r' :: '\n' :: rest => [] :: splitLines rest
  | c :: rest => if isLineBreak c then [] :: splitLines rest else consLine c (splitLines rest)

variable {l rest t : List Char} {c : Char} {p : Char → Bool}

theorem splitLines_cons_break (hc : isLineBreak c = true) (hcr : c ≠ '\r') :
    splitLines (c :: rest) = [] :: splitLines rest := by
  rw [splitLines, if_pos hc]
  rintro rest' rfl
  exact absurd rfl hcr

theorem splitLines_cons (hc : isLineBreak c = false) :
    splitLines (c :: rest) = consLine c (splitLines rest) := by
  rw [splitLines, if_neg (by rw [hc]; exact Bool.false_ne_true)]
  rintro rest' rfl
  cases hc

/-- A line that ends. -/
theorem splitLines_append_break (hl : ∀ d ∈ l, isLineBreak d = false)
    (hc : isLineBreak c = true) (hcr : c ≠ '\r') :
    splitLines (l ++ c :: rest) = l :: splitLines rest := by
  induction l with
  | nil => exact splitLines_cons_break hc hcr
  | cons d l ih =>
    rw [List.cons_append, splitLines_cons (hl d List.mem_cons_self),
      ih fun e he => hl e (List.mem_cons_of_mem _ he)]
    rfl

/-- The last line, without an end. -/
theorem splitLines_line (hl : ∀ d ∈ l, isLineBreak d = false) (hne : l ≠ []) :
    splitLines l = [l] := by
  induction l with
  | nil => exact absurd rfl hne
  | cons d l ih =>
    rw [splitLines_cons (hl d List.mem_cons_self)]
    cases l with
    | nil => rfl
    | cons e l => rw [ih (fun e he => hl e (List.mem_cons_of_mem _ he)) (by simp)]; rfl

/-- **Induction on the lines of a text.** -/
theorem lines_induction {P : List Char → Prop} (nil : P [])
    (last : ∀ l, (∀ c ∈ l, isLineBreak c = false) → l ≠ [] → P l)
    (line : ∀ l c rest, (∀ d ∈ l, isLineBreak d = false) → isLineBreak c = true → P rest →
      P (l ++ c :: rest)) (t : List Char) : P t := by
  induction hn : t.length using Nat.strong_induction_on generalizing t with
  | _ n ih =>
    have hsplit := (List.takeWhile_append_dropWhile (p := fun c => !isLineBreak c) (l := t)).symm
    have hl : ∀ c ∈ t.takeWhile fun c => !isLineBreak c, isLineBreak c = false := by
      intro c hc
      have hnot := List.mem_takeWhile_imp hc
      simpa using hnot
    cases hdrop : t.dropWhile fun c => !isLineBreak c with
    | nil =>
      rw [hdrop, List.append_nil] at hsplit
      rw [← hsplit] at hl
      rcases eq_or_ne t [] with rfl | hne
      · exact nil
      · exact last t hl hne
    | cons c rest =>
      rw [hdrop] at hsplit
      have hc : isLineBreak c = true := by
        have hhead := List.head?_dropWhile_not (fun c => !isLineBreak c) t
        rw [hdrop] at hhead
        simpa using hhead
      rw [hsplit]
      refine line _ c rest hl hc (ih rest.length ?_ rest rfl)
      have hlength := congrArg List.length hsplit
      simp at hlength
      omega

/-- `"\n".join(line.rstrip() for line in text.splitlines())`, for a class of blanks. -/
def rstripLines (p : Char → Bool) (t : List Char) : List Char :=
  List.intercalate ['\n'] ((splitLines t).map (List.rdropWhile p))

theorem rstripLines_line (hl : ∀ d ∈ l, isLineBreak d = false) (hne : l ≠ []) :
    rstripLines p l = l.rdropWhile p := by
  rw [rstripLines, splitLines_line hl hne]
  simp

theorem splitLines_ne_nil (h : t ≠ []) : splitLines t ≠ [] := by
  unfold splitLines
  split
  · exact absurd rfl h
  · simp
  · split
    · simp
    · cases splitLines _ <;> simp [consLine]

theorem rstripLines_append_break (hl : ∀ d ∈ l, isLineBreak d = false)
    (hc : isLineBreak c = true) (hcr : c ≠ '\r') :
    rstripLines p (l ++ c :: rest) =
      l.rdropWhile p ++ (if rest = [] then [] else '\n' :: rstripLines p rest) := by
  rw [rstripLines, splitLines_append_break hl hc hcr]
  by_cases hrest : rest = []
  · subst hrest
    simp [splitLines]
  · obtain ⟨line, lines, hlines⟩ := List.exists_cons_of_ne_nil (splitLines_ne_nil hrest)
    rw [if_neg hrest, rstripLines, hlines]
    simp [List.intercalate]

/-- Where the ends of lines are blanks, stripping lines changes blanks only. -/
theorem respaced_rstripLines (hbreak : ∀ c, isLineBreak c = true → p c = true)
    (hcr : '\r' ∉ t) : Respaced p t (rstripLines p t) := by
  induction t using lines_induction with
  | nil => exact .tail (by simp) (by simp [rstripLines, splitLines])
  | last l hl hne =>
    obtain ⟨s, hs, hsplit⟩ := exists_rdropWhile_append (p := p) l
    rw [rstripLines_line hl hne]
    have h := Respaced.append_tail (l.rdropWhile p) hs
    rwa [← hsplit] at h
  | line l c rest hl hc ih =>
    have hne : c ≠ '\r' := by
      rintro rfl
      exact hcr (by simp)
    obtain ⟨s, hs, hsplit⟩ := exists_rdropWhile_append (p := p) l
    have hgap : ∀ d ∈ s ++ [c], p d = true := by
      intro d hd
      rcases List.mem_append.1 hd with hd | hd
      · exact hs d hd
      · rw [List.mem_singleton.1 hd]
        exact hbreak c hc
    rw [rstripLines_append_break hl hc hne]
    split
    · next hrest =>
      subst hrest
      have h := Respaced.append_tail (l.rdropWhile p) hgap
      rw [← List.append_assoc, ← hsplit] at h
      rwa [List.append_nil]
    · have hrest := ih fun hmem => hcr (by simp [hmem])
      have hnewline : ∀ d ∈ ['\n'], p d = true := by simpa using hbreak '\n' (by decide)
      have h := (Respaced.gap (by simp) (by simp) hgap hnewline hrest).append_left
        (l.rdropWhile p)
      rw [← List.append_assoc, ← List.append_assoc, ← hsplit, List.append_assoc] at h
      exact h

theorem mem_rstripLines (hcr : '\r' ∉ t) :
    c ∈ rstripLines p t → c = '\n' ∨ c ∈ t ∧ isLineBreak c = false := by
  have hstrip : ∀ l : List Char, (∀ d ∈ l, isLineBreak d = false) → c ∈ l.rdropWhile p →
      c ∈ l ∧ isLineBreak c = false := by
    intro l hl hmem
    have hc := (List.rdropWhile_prefix p l).subset hmem
    exact ⟨hc, hl c hc⟩
  induction t using lines_induction with
  | nil => intro h; cases h
  | last l hl hne =>
    intro h
    rw [rstripLines_line hl hne] at h
    exact .inr (hstrip l hl h)
  | line l d rest hl hd ih =>
    intro h
    rw [rstripLines_append_break hl hd (by rintro rfl; exact hcr (by simp)), List.mem_append] at h
    rcases h with h | h
    · exact .inr ((hstrip l hl h).imp_left (List.mem_append_left _))
    · split at h
      · cases h
      · rcases List.mem_cons.1 h with rfl | h
        · exact .inl rfl
        · refine (ih (fun hmem => hcr (by simp [hmem])) h).imp_right fun h => ⟨?_, h.2⟩
          exact List.mem_append_right _ (List.mem_cons_of_mem _ h.1)

/-- No blank stands before the end of a line. -/
def LineEndsTrimmed (p : Char → Bool) (t : List Char) : Prop :=
  t.IsChain fun a b => b = '\n' → a ≠ '\n' → p a = false

theorem lineEndsTrimmed_line (hl : ∀ d ∈ l, isLineBreak d = false) : LineEndsTrimmed p l := by
  refine (List.pairwise_of_forall_mem_list fun a _ b hb heq => ?_).isChain
  rw [heq] at hb
  exact absurd (hl _ hb) (by decide)

theorem lineEndsTrimmed_rstripLines (hcr : '\r' ∉ t) :
    LineEndsTrimmed p (rstripLines p t) := by
  have hstrip : ∀ l : List Char, (∀ d ∈ l, isLineBreak d = false) →
      LineEndsTrimmed p (l.rdropWhile p) := fun l hl =>
    lineEndsTrimmed_line fun d hd => hl d ((List.rdropWhile_prefix p l).subset hd)
  induction t using lines_induction with
  | nil => exact List.isChain_nil
  | last l hl hne =>
    rw [rstripLines_line hl hne]
    exact hstrip l hl
  | line l c rest hl hc ih =>
    rw [rstripLines_append_break hl hc (by rintro rfl; exact hcr (by simp))]
    split
    · rw [List.append_nil]
      exact hstrip l hl
    · refine List.isChain_append.2 ⟨hstrip l hl, ?_, fun a ha b hb _ _ => ?_⟩
      · refine List.isChain_cons.2 ⟨fun y _ _ hnot => absurd rfl hnot, ih fun hmem => hcr ?_⟩
        simp [hmem]
      · have hne : l.rdropWhile p ≠ [] := by
          intro hnil
          rw [hnil] at ha
          cases ha
        have hlast := List.rdropWhile_last_not p l hne
        rw [List.getLast?_eq_getLast_of_ne_nil hne, Option.mem_some_iff] at ha
        rw [← ha]
        exact eq_false_of_ne_true hlast

theorem rdropWhile_eq_self_of_getLast? (h : ∀ c, l.getLast? = some c → p c = false) :
    l.rdropWhile p = l := by
  rw [List.rdropWhile_eq_self_iff]
  intro hne hlast
  rw [h _ (List.getLast?_eq_getLast_of_ne_nil hne)] at hlast
  cases hlast

/-- A text whose lines are stripped is left as it is. -/
theorem rstripLines_eq_self (hbreak : ∀ c, isLineBreak c = true → p c = true)
    (honly : ∀ c ∈ t, isLineBreak c = true → c = '\n') (htrimmed : LineEndsTrimmed p t)
    (hlast : ∀ c, t.getLast? = some c → p c = false) : rstripLines p t = t := by
  induction t using lines_induction with
  | nil => rfl
  | last l hl hne =>
    rw [rstripLines_line hl hne]
    exact rdropWhile_eq_self_of_getLast? hlast
  | line l c rest hl hc ih =>
    obtain rfl : c = '\n' := honly c (by simp) hc
    have hne : rest ≠ [] := by
      rintro rfl
      have h := hlast '\n' (by simp)
      rw [hbreak _ hc] at h
      cases h
    obtain ⟨-, hrest, hjoin⟩ := List.isChain_append.1 htrimmed
    have hline : l.rdropWhile p = l := by
      refine rdropWhile_eq_self_of_getLast? fun d hd => hjoin d hd '\n' rfl rfl ?_
      rintro rfl
      exact absurd (hl _ (List.mem_of_getLast? hd)) (by decide)
    rw [rstripLines_append_break hl hc (by decide), if_neg hne, hline,
      ih (fun d hd => honly d (by simp [hd])) (List.isChain_cons.1 hrest).2 fun d hd => ?_]
    refine hlast d ?_
    rw [List.getLast?_append_of_ne_nil _ (List.cons_ne_nil _ _), List.getLast?_cons, hd]
    rfl

end Lines

end Py
