import Mathlib.Data.List.DropRight
import Mathlib.Data.List.TakeWhile

/-!
# Text by code points

The methods of `str`, `re.sub` of a class of characters, and `pathlib.PurePath` on a POSIX system,
on the list of the code points of a text. A lone surrogate is a code point like another.

* `stripOf`: `str.strip`, and `Trimmed`, what it leaves.
* `subRuns`: `re.sub(r"[...]+", r, text)`.
* `rfind`: `str.rfind`.
* `PurePath.name`, `PurePath.stem`: the last component of a path, and that without its suffix.
-/

namespace Py

/-- A `str`, as its code points. -/
abbrev Str := List ℕ

/-- The code points of a literal. -/
def Str.of (s : String) : Str := s.toList.map Char.toNat

section Strip

variable {α : Type} {p q : α → Bool} {t : List α}

/-- `str.strip` of a class of characters. -/
def stripOf (p : α → Bool) (t : List α) : List α := (t.dropWhile p).rdropWhile p

/-- A text that neither starts nor ends with a character of the class. -/
structure Trimmed (p : α → Bool) (t : List α) : Prop where
  head : ∀ c, t.head? = some c → p c = false
  last : ∀ c, t.getLast? = some c → p c = false

theorem Trimmed.mono (h : Trimmed p t) (hsub : ∀ c, q c = true → p c = true) : Trimmed q t := by
  have hnot : ∀ c, p c = false → q c = false := by
    intro c hc
    by_contra hq
    rw [hsub c (by simpa using hq)] at hc
    cases hc
  exact ⟨fun c hc => hnot c (h.head c hc), fun c hc => hnot c (h.last c hc)⟩

theorem stripOf_sublist (p : α → Bool) (t : List α) : (stripOf p t).Sublist t :=
  (List.rdropWhile_prefix p _).sublist.trans (List.dropWhile_sublist p)

/-- A character outside the class is not stripped. -/
theorem mem_stripOf {c : α} (hc : p c = false) : c ∈ stripOf p t ↔ c ∈ t := by
  have hdrop : ∀ l : List α, c ∈ l.dropWhile p ↔ c ∈ l := by
    intro l
    refine ⟨fun h => (List.dropWhile_sublist p).subset h, fun h => ?_⟩
    rw [← List.takeWhile_append_dropWhile (p := p) (l := l), List.mem_append] at h
    refine h.resolve_left fun htake => ?_
    have hp := List.all_eq_true.1 List.all_takeWhile c htake
    rw [hc] at hp
    cases hp
  rw [stripOf, List.rdropWhile, List.mem_reverse, hdrop, List.mem_reverse, hdrop]

/-- The ends of a stripped text are outside the class. -/
theorem trimmed_stripOf (p : α → Bool) (t : List α) : Trimmed p (stripOf p t) := by
  constructor
  · intro c hc
    obtain ⟨tail, hprefix⟩ := List.rdropWhile_prefix p (t.dropWhile p)
    obtain ⟨rest, hcons⟩ : ∃ rest, stripOf p t = c :: rest := by
      cases hs : stripOf p t with
      | nil => rw [hs] at hc; cases hc
      | cons d rest => rw [hs] at hc; exact ⟨rest, by rw [Option.some.inj hc]⟩
    have hdrop : t.dropWhile p = c :: (rest ++ tail) := by
      rw [← hprefix, ← stripOf, hcons, List.cons_append]
    have hhead := List.head?_dropWhile_not p t
    rw [hdrop] at hhead
    simpa using hhead
  · intro c hc
    have hne : stripOf p t ≠ [] := by
      intro hnil
      rw [hnil] at hc
      cases hc
    have hlast := List.rdropWhile_last_not p (t.dropWhile p) hne
    rw [List.getLast?_eq_getLast_of_ne_nil hne] at hc
    rw [← Option.some.inj hc]
    exact eq_false_of_ne_true hlast

/-- Nothing is stripped from a text whose ends are outside the class. -/
theorem Trimmed.stripOf_eq (h : Trimmed p t) : stripOf p t = t := by
  have hdrop : t.dropWhile p = t := by
    cases t with
    | nil => rfl
    | cons c rest => rw [List.dropWhile_cons_of_neg (by simp [h.head c rfl])]
  rw [stripOf, hdrop, List.rdropWhile_eq_self_iff]
  intro hne
  have hlast := h.last (t.getLast hne) (List.getLast?_eq_getLast_of_ne_nil hne)
  simp [hlast]

end Strip

section Sub

variable {α : Type} {p : α → Bool} {r : α}

/-- The rest of a text, when the character before it was of the class or not. -/
def subRunsFrom (p : α → Bool) (r : α) : Bool → List α → List α
  | _, [] => []
  | inRun, c :: rest =>
    if p c then (if inRun then [] else [r]) ++ subRunsFrom p r true rest
    else c :: subRunsFrom p r false rest

/-- `re.sub(r"[...]+", r, text)`: each longest run of the class becomes one character. -/
def subRuns (p : α → Bool) (r : α) (t : List α) : List α := subRunsFrom p r false t

theorem mem_subRunsFrom {t : List α} {c : α} :
    ∀ {inRun}, c ∈ subRunsFrom p r inRun t → c = r ∨ c ∈ t ∧ p c = false := by
  induction t with
  | nil => intro inRun h; cases h
  | cons d rest ih =>
    intro inRun h
    by_cases hd : p d = true
    · rw [subRunsFrom, if_pos hd, List.mem_append] at h
      rcases h with h | h
      · cases inRun with
        | true => simp at h
        | false => exact .inl (by simpa using h)
      · exact (ih h).imp_right fun hc => ⟨List.mem_cons_of_mem _ hc.1, hc.2⟩
    · rw [subRunsFrom, if_neg hd, List.mem_cons] at h
      rcases h with rfl | h
      · exact .inr ⟨List.mem_cons_self, by simpa using hd⟩
      · exact (ih h).imp_right fun hc => ⟨List.mem_cons_of_mem _ hc.1, hc.2⟩

/-- What a substitution leaves is outside the class, or its replacement. -/
theorem mem_subRuns {t : List α} {c : α} (h : c ∈ subRuns p r t) : c = r ∨ c ∈ t ∧ p c = false :=
  mem_subRunsFrom h

theorem length_subRunsFrom_le (t : List α) : ∀ inRun, (subRunsFrom p r inRun t).length ≤ t.length := by
  induction t with
  | nil => intro inRun; exact le_rfl
  | cons c rest ih =>
    intro inRun
    rw [subRunsFrom]
    split
    · have hrest := ih true
      cases inRun <;> simp <;> omega
    · simpa using ih false

theorem length_subRuns_le (t : List α) : (subRuns p r t).length ≤ t.length :=
  length_subRunsFrom_le t false

/-- A text outside the class is left as it is. -/
theorem subRuns_eq_self {t : List α} (h : ∀ c ∈ t, p c = false) : subRuns p r t = t := by
  induction t with
  | nil => rfl
  | cons c rest ih =>
    have hc : ¬ p c = true := by simp [h c List.mem_cons_self]
    have hrest := ih fun d hd => h d (List.mem_cons_of_mem _ hd)
    rw [subRuns] at hrest ⊢
    rw [subRunsFrom, if_neg hc, hrest]

end Sub

section Find

variable {α : Type} [BEq α] [LawfulBEq α]

/-- `str.rfind` of one character. -/
def rfind (c : α) (t : List α) : Option ℕ :=
  (t.reverse.findIdx? (· == c)).map fun k => t.length - 1 - k

theorem rfind_append_cons {c : α} {a b : List α} (h : c ∉ b) :
    rfind c (a ++ c :: b) = some a.length := by
  have hnone : b.reverse.findIdx? (· == c) = none := by
    rw [List.findIdx?_eq_none_iff]
    intro x hx
    simp only [beq_eq_false_iff_ne, ne_eq]
    rintro rfl
    exact h (List.mem_reverse.1 hx)
  have hrev : (a ++ c :: b).reverse = b.reverse ++ c :: a.reverse := by simp
  rw [rfind, hrev, List.findIdx?_append, hnone]
  simp [List.findIdx?_cons]

end Find

/-- `str.isspace` of one character. -/
def Str.isSpace (c : ℕ) : Bool :=
  decide (9 ≤ c ∧ c ≤ 13) || decide (28 ≤ c ∧ c ≤ 32) || c == 0x85 || c == 0xA0 || c == 0x1680 ||
    decide (0x2000 ≤ c ∧ c ≤ 0x200A) || c == 0x2028 || c == 0x2029 || c == 0x202F || c == 0x205F ||
    c == 0x3000

/-- `c.isspace()`. -/
def isSpace (c : Char) : Bool := Str.isSpace c.toNat

/-- The category Cc. -/
def Str.isControl (c : ℕ) : Bool := decide (c ≤ 0x1F) || decide (0x7F ≤ c ∧ c ≤ 0x9F)

namespace PurePath

def slash : ℕ := 0x2F

def dot : ℕ := 0x2E

/-- `PurePath(path).name`: the last component that is neither empty nor a dot, if any. -/
def name (path : Str) : Str :=
  ((path.splitOn slash).filter fun part => part != [] && part != [dot]).getLast?.getD []

/-- `PurePath(path).stem`: a dot that starts or ends the name starts no suffix. -/
def stem (path : Str) : Str :=
  match rfind dot (name path) with
  | some i => if 0 < i ∧ i < (name path).length - 1 then (name path).take i else name path
  | none => name path

/-- A path of one component is its own name. -/
theorem name_eq_self {t : Str} (hslash : slash ∉ t) (hne : t ≠ []) (hdot : t ≠ [dot]) :
    name t = t := by
  rw [name, List.splitOn_eq_singleton hslash]
  simp [hne, hdot]

/-- The stem of a name with a suffix. -/
theorem stem_append_cons {a b : Str} (hname : name (a ++ dot :: b) = a ++ dot :: b) (hdot : dot ∉ b)
    (ha : a ≠ []) (hb : b ≠ []) : stem (a ++ dot :: b) = a := by
  have ha' := List.length_pos_of_ne_nil ha
  have hb' := List.length_pos_of_ne_nil hb
  simp only [stem, hname, rfind_append_cons hdot]
  rw [if_pos ⟨ha', by simp; omega⟩, List.take_left]

end PurePath

end Py
