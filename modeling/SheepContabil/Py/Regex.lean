import SheepContabil.Py.Value

/-!
# Regular expressions

The part of `re` that backtracks: character classes, sequences, greedy repetitions
and one-character look-around. A cursor is the text before a position, reversed, and
the text after it.

* `Pattern.ends`: the ends of the matches at a cursor, in the order `re` tries them.
* `Pattern.findall`: `re.findall` of a pattern that matches no empty text.
-/

namespace Py

/-- The digits zero of the Unicode category Nd; the other nine follow each. -/
def decimalZeros : List ℕ :=
  [0x30, 0x660, 0x6F0, 0x7C0, 0x966, 0x9E6, 0xA66, 0xAE6, 0xB66, 0xBE6, 0xC66, 0xCE6, 0xD66, 0xDE6,
    0xE50, 0xED0, 0xF20, 0x1040, 0x1090, 0x17E0, 0x1810, 0x1946, 0x19D0, 0x1A80, 0x1A90, 0x1B50,
    0x1BB0, 0x1C40, 0x1C50, 0xA620, 0xA8D0, 0xA900, 0xA9D0, 0xA9F0, 0xAA50, 0xABF0, 0xFF10, 0x104A0,
    0x10D30, 0x11066, 0x110F0, 0x11136, 0x111D0, 0x112F0, 0x11450, 0x114D0, 0x11650, 0x116C0,
    0x11730, 0x118E0, 0x11950, 0x11C50, 0x11D50, 0x11DA0, 0x11F50, 0x16A60, 0x16AC0, 0x16B50,
    0x1D7CE, 0x1D7D8, 0x1D7E2, 0x1D7EC, 0x1D7F6, 0x1E140, 0x1E2F0, 0x1E4F0, 0x1E950, 0x1FBF0]

/-- `\d` of a text pattern. -/
def isDecimal (c : Char) : Bool := decimalZeros.any fun z => z ≤ c.toNat && c.toNat < z + 10

theorem decimalZeros_not_space : ∀ z ∈ decimalZeros, ∀ k < 10,
    ¬ (z + k ≤ 32 ∨ z + k = 0x85 ∨ z + k = 0xA0 ∨ z + k = 0x1680 ∨
      (0x2000 ≤ z + k ∧ z + k ≤ 0x205F) ∨ z + k = 0x3000) := by
  decide +kernel

/-- No decimal digit is a blank. -/
theorem not_isSpace_of_isDecimal {c : Char} (h : isDecimal c = true) : isSpace c = false := by
  simp only [isDecimal, List.any_eq_true, Bool.and_eq_true, decide_eq_true_eq] at h
  obtain ⟨z, hz, hlow, hhigh⟩ := h
  have hnot := decimalZeros_not_space z hz (c.toNat - z) (by omega)
  rw [Nat.add_sub_cancel' hlow] at hnot
  simp only [isSpace, Str.isSpace, Bool.or_eq_false_iff, decide_eq_false_iff_not,
    beq_eq_false_iff_ne, ne_eq]
  omega

/-- `re.sub(r"\D", "", s)`. -/
def onlyDecimals (s : List Char) : List Char := s.filter isDecimal

inductive Pattern where
  | char (p : Char → Bool)
  | many (p : Char → Bool)
  | seq (a b : Pattern)
  | rep (a : Pattern) (least more : ℕ)
  | notBehind (p : Char → Bool)
  | notAhead (p : Char → Bool)

abbrev Cursor := List Char × List Char

namespace Pattern

/-- `[p]*`, the longest first. -/
def manyEnds (p : Char → Bool) (before : List Char) : List Char → List Cursor
  | [] => [(before, [])]
  | c :: rest => (if p c then manyEnds p (c :: before) rest else []) ++ [(before, c :: rest)]

/-- `a{least,least+more}`, the most repetitions first. -/
def repEnds (ends : Cursor → List Cursor) : ℕ → ℕ → Cursor → List Cursor
  | least + 1, more, cur => (ends cur).flatMap (repEnds ends least more)
  | 0, 0, cur => [cur]
  | 0, more + 1, cur => (ends cur).flatMap (repEnds ends 0 more) ++ [cur]

/-- The ends of the matches at a cursor, in the order of the backtracking. -/
def ends : Pattern → Cursor → List Cursor
  | char p, (before, c :: rest) => if p c then [(c :: before, rest)] else []
  | char _, (_, []) => []
  | many p, (before, rest) => manyEnds p before rest
  | seq a b, cur => (ends a cur).flatMap (ends b)
  | rep a least more, cur => repEnds (ends a) least more cur
  | notBehind p, cur => if cur.1.head?.any p then [] else [cur]
  | notAhead p, cur => if cur.2.head?.any p then [] else [cur]

/-- The scan of `findall`, with at most so many steps left: a match is taken whole. -/
def scan (pattern : Pattern) : ℕ → Cursor → List (List Char)
  | 0, _ => []
  | _ + 1, (_, []) => []
  | n + 1, (before, c :: rest) =>
    match pattern.ends (before, c :: rest) with
    | (before', rest') :: _ =>
      (c :: rest).take ((c :: rest).length - rest'.length) :: scan pattern n (before', rest')
    | [] => scan pattern n (c :: before, rest)

/-- `re.findall`. -/
def findall (pattern : Pattern) (text : List Char) : List (List Char) :=
  pattern.scan text.length ([], text)

end Pattern

end Py
