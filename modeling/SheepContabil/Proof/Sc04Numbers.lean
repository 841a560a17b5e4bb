import SheepContabil.Proof.Sc04Policy
import SheepContabil.Proof.Sc20Phone

/-!
# SC-04: the document numbers of a text

* `Stretch`: digits with separators between them.
* `LongestStretch`: what the pattern of `_exact_client_match` takes at a position.
* `Apart`: the numbers of a text stand apart from other digits.
* `numberedClients_of_apart`: **there each written number is recognised, and nothing else.**
-/

namespace SheepContabil

open Py

section Stretch

/-- Digits with separators between them, from a digit to a digit. -/
inductive Stretch : List Char → Prop
  | last {d : Char} (hd : isDecimal d = true) : Stretch [d]
  | cons {d : Char} {seps w : List Char} (hd : isDecimal d = true)
      (hseps : ∀ c ∈ seps, isNumberSeparator c = true) (hw : Stretch w) : Stretch (d :: (seps ++ w))

/-- The number of digits. -/
def digitCount (w : List Char) : ℕ := (onlyDecimals w).length

theorem not_isDecimal_of_separator {c : Char} (h : isNumberSeparator c = true) :
    isDecimal c = false := by
  by_contra hd
  have hd : isDecimal c = true := by simpa using hd
  have hspace := not_isSpace_of_isDecimal hd
  simp only [isNumberSeparator, hspace, Bool.false_or, Bool.or_eq_true, beq_iff_eq] at h
  rcases h with (rfl | rfl) | rfl <;> exact absurd hd (by decide +kernel)

theorem onlyDecimals_of_separators {seps : List Char}
    (h : ∀ c ∈ seps, isNumberSeparator c = true) : onlyDecimals seps = [] := by
  refine List.filter_eq_nil_iff.2 fun c hc => ?_
  simp [not_isDecimal_of_separator (h c hc)]

theorem Stretch.head {w : List Char} (h : Stretch w) : ∃ d v, w = d :: v ∧ isDecimal d = true := by
  cases h with
  | last hd => exact ⟨_, _, rfl, hd⟩
  | cons hd _ _ => exact ⟨_, _, rfl, hd⟩

theorem Stretch.length_pos {w : List Char} (h : Stretch w) : 0 < w.length := by
  obtain ⟨d, v, rfl, -⟩ := h.head
  exact Nat.succ_pos _

theorem digitCount_last {d : Char} (hd : isDecimal d = true) : digitCount [d] = 1 := by
  simp [digitCount, onlyDecimals, hd]

theorem digitCount_cons {d : Char} {seps w : List Char} (hd : isDecimal d = true)
    (hseps : ∀ c ∈ seps, isNumberSeparator c = true) :
    digitCount (d :: (seps ++ w)) = digitCount w + 1 := by
  have hs := onlyDecimals_of_separators hseps
  unfold digitCount onlyDecimals at *
  simp [hd, hs]

theorem Stretch.digitCount_pos {w : List Char} (h : Stretch w) : 0 < digitCount w := by
  cases h with
  | last hd => rw [digitCount_last hd]; exact Nat.one_pos
  | cons hd hseps _ => rw [digitCount_cons hd hseps]; exact Nat.succ_pos _

end Stretch

section Pattern

open Pattern

/-- A digit of the number with the separators after it. -/
def digitUnit : Pattern := .seq (.char isDecimal) (.many isNumberSeparator)

/-- The last digit of the number. -/
def lastDigit : Pattern := .seq (.char isDecimal) (.notAhead isDecimal)

/-- The ends of a number of so many digits at a cursor. -/
def numberEnds (least more : ℕ) (cur : Cursor) : List Cursor :=
  (repEnds digitUnit.ends least more cur).flatMap lastDigit.ends

/-- The cursor after the separators. -/
def skipSeparators (cur : Cursor) : Cursor :=
  ((cur.2.takeWhile isNumberSeparator).reverse ++ cur.1, cur.2.dropWhile isNumberSeparator)

theorem ends_documentNumber (cur : Cursor) :
    documentNumberPattern.ends cur =
      if cur.1.head?.any isDecimal then [] else numberEnds 10 3 cur := by
  obtain ⟨before, rest⟩ := cur
  simp only [documentNumberPattern, numberEnds, digitUnit, lastDigit, ends]
  split <;> simp

theorem lastDigit_ends {before rest : List Char} {d : Char} (hd : isDecimal d = true) :
    lastDigit.ends (before, d :: rest) =
      if rest.head?.any isDecimal then [] else [(d :: before, rest)] := by
  simp [lastDigit, ends, hd]

theorem digitUnit_ends {before rest : List Char} {d : Char} (hd : isDecimal d = true) :
    digitUnit.ends (before, d :: rest) = manyEnds isNumberSeparator (d :: before) rest := by
  simp [digitUnit, ends, hd]

theorem unit_no_digit {before rest : List Char} (h : rest.head?.any isDecimal = false) :
    digitUnit.ends (before, rest) = [] ∧ lastDigit.ends (before, rest) = [] := by
  cases rest with
  | nil => simp [digitUnit, lastDigit, ends]
  | cons c rest =>
    have hc : isDecimal c = false := by simpa using h
    simp [digitUnit, lastDigit, ends, hc]

/-- A number begins with a digit. -/
theorem numberEnds_no_digit {before rest : List Char} (h : rest.head?.any isDecimal = false)
    (least more : ℕ) : numberEnds least more (before, rest) = [] := by
  obtain ⟨hunit, hlast⟩ := @unit_no_digit before rest h
  cases least with
  | succ least => simp [numberEnds, repEnds, hunit]
  | zero =>
    cases more with
    | zero => simp [numberEnds, repEnds, hlast]
    | succ more => simp [numberEnds, repEnds, hunit, hlast]

/-- Where nothing matches at a separator, only the longest repetition of separators matters. -/
theorem flatMap_manyEnds {ε : Type} (p : Char → Bool) (f : Cursor → List ε)
    (hf : ∀ before c rest, p c = true → f (before, c :: rest) = []) :
    ∀ rest before, (manyEnds p before rest).flatMap f =
      f ((rest.takeWhile p).reverse ++ before, rest.dropWhile p) := by
  intro rest
  induction rest with
  | nil => intro before; simp [manyEnds]
  | cons c rest ih =>
    intro before
    by_cases hc : p c = true
    · simp [manyEnds, hc, ih, hf before c rest hc]
    · simp [manyEnds, hc]

theorem flatMap_digitUnit {before rest : List Char} {d : Char} (hd : isDecimal d = true)
    (least more : ℕ) :
    (digitUnit.ends (before, d :: rest)).flatMap (numberEnds least more) =
      numberEnds least more (skipSeparators (d :: before, rest)) := by
  rw [digitUnit_ends hd, flatMap_manyEnds isNumberSeparator]
  · rfl
  · intro before c rest hc
    exact numberEnds_no_digit (by simpa using not_isDecimal_of_separator hc) least more

theorem numberEnds_succ {before rest : List Char} {d : Char} (hd : isDecimal d = true)
    (least more : ℕ) :
    numberEnds (least + 1) more (before, d :: rest) =
      numberEnds least more (skipSeparators (d :: before, rest)) := by
  rw [← flatMap_digitUnit hd, numberEnds, repEnds, List.flatMap_assoc]
  rfl

theorem numberEnds_zero_succ {before rest : List Char} {d : Char} (hd : isDecimal d = true)
    (more : ℕ) :
    numberEnds 0 (more + 1) (before, d :: rest) =
      numberEnds 0 more (skipSeparators (d :: before, rest)) ++ lastDigit.ends (before, d :: rest) := by
  rw [← flatMap_digitUnit hd, numberEnds, repEnds, List.flatMap_append, List.flatMap_assoc,
    List.flatMap_singleton]
  rfl

theorem numberEnds_zero (cur : Cursor) : numberEnds 0 0 cur = lastDigit.ends cur := by
  simp [numberEnds, repEnds]

/-- `w` leads from a cursor to another, with no digit after it. -/
structure Leads (cur : Cursor) (w : List Char) (cur' : Cursor) : Prop where
  stretch : Stretch w
  rest : cur.2 = w ++ cur'.2
  before : cur'.1 = w.reverse ++ cur.1
  notAhead : cur'.2.head?.any isDecimal = false

theorem Leads.last {before rest : List Char} {d : Char} (hd : isDecimal d = true) {cur' : Cursor}
    (h : cur' ∈ lastDigit.ends (before, d :: rest)) : Leads (before, d :: rest) [d] cur' := by
  rw [lastDigit_ends hd] at h
  split at h
  · cases h
  · rename_i hahead
    rw [List.mem_singleton] at h
    subst h
    exact ⟨.last hd, rfl, rfl, by simpa only [Bool.not_eq_true] using hahead⟩

theorem Leads.cons {before rest w : List Char} {d : Char} (hd : isDecimal d = true) {cur' : Cursor}
    (h : Leads (skipSeparators (d :: before, rest)) w cur') :
    Leads (before, d :: rest) (d :: (rest.takeWhile isNumberSeparator ++ w)) cur' := by
  have hrest : rest.dropWhile isNumberSeparator = w ++ cur'.2 := h.rest
  refine ⟨.cons hd (fun c hc => List.mem_takeWhile_imp hc) h.stretch, ?_, ?_, h.notAhead⟩
  · rw [List.cons_append, List.append_assoc, ← hrest, List.takeWhile_append_dropWhile]
  · rw [h.before]
    simp [skipSeparators]

/-- The ends are where the stretches of so many digits lead. -/
theorem numberEnds_sound {least more : ℕ} {cur cur' : Cursor}
    (h : cur' ∈ numberEnds least more cur) :
    ∃ w, Leads cur w cur' ∧ least + 1 ≤ digitCount w ∧ digitCount w ≤ least + more + 1 := by
  obtain ⟨before, rest⟩ := cur
  -- each digit takes one repetition, first of the required ones
  induction hn : least + more generalizing least more before rest with
  | zero =>
    obtain ⟨rfl, rfl⟩ : least = 0 ∧ more = 0 := by omega
    cases rest with
    | nil => rw [numberEnds_no_digit rfl] at h; cases h
    | cons d rest =>
      by_cases hd : isDecimal d = true
      · rw [numberEnds_zero] at h
        exact ⟨[d], .last hd h, by simp [digitCount_last hd]⟩
      · rw [numberEnds_no_digit (by simpa using hd)] at h; cases h
  | succ n ih =>
    cases rest with
    | nil => rw [numberEnds_no_digit rfl] at h; cases h
    | cons d rest =>
      by_cases hd : isDecimal d = true
      · have hcons : ∀ {least' more'}, least' + more' = n →
            cur' ∈ numberEnds least' more' (skipSeparators (d :: before, rest)) →
            ∃ w, Leads (before, d :: rest) w cur' ∧ least' + 2 ≤ digitCount w ∧
              digitCount w ≤ n + 2 := by
          intro least' more' hn' hmem
          obtain ⟨w, hw, hlow, hhigh⟩ := ih _ _ hmem hn'
          refine ⟨_, hw.cons hd, ?_, ?_⟩ <;>
            rw [digitCount_cons hd fun c hc => List.mem_takeWhile_imp hc] <;> omega
        cases least with
        | succ least =>
          rw [numberEnds_succ hd] at h
          obtain ⟨w, hw, hlow, hhigh⟩ := hcons (by omega) h
          exact ⟨w, hw, by omega, by omega⟩
        | zero =>
          obtain ⟨more, rfl⟩ : ∃ m, more = m + 1 := ⟨more - 1, by omega⟩
          rw [numberEnds_zero_succ hd, List.mem_append] at h
          rcases h with h | h
          · obtain ⟨w, hw, hlow, hhigh⟩ := hcons (by omega) h
            exact ⟨w, hw, by omega, by omega⟩
          · exact ⟨[d], .last hd h, by rw [digitCount_last hd]; omega⟩
      · rw [numberEnds_no_digit (by simpa using hd)] at h; cases h

theorem skipSeparators_stretch {before seps w after : List Char} {d : Char}
    (hseps : ∀ c ∈ seps, isNumberSeparator c = true) (hw : Stretch w) :
    skipSeparators (d :: before, seps ++ (w ++ after)) =
      (seps.reverse ++ d :: before, w ++ after) := by
  obtain ⟨c, v, rfl, hc⟩ := hw.head
  have hc' : isNumberSeparator c = false := by
    by_contra hsep
    exact absurd (not_isDecimal_of_separator (by simpa using hsep)) (by simp [hc])
  simp only [skipSeparators, List.cons_append]
  rw [List.takeWhile_append_of_pos hseps, List.dropWhile_append_of_pos hseps]
  simp [hc']

theorem numberEnds_complete {w : List Char} (hw : Stretch w) :
    ∀ {least more : ℕ} {before after : List Char}, after.head?.any isDecimal = false →
      least + 1 ≤ digitCount w → digitCount w ≤ least + more + 1 →
      (w.reverse ++ before, after) ∈ numberEnds least more (before, w ++ after) := by
  induction hw with
  | @last d hd =>
    intro least more before after hafter hlow hhigh
    rw [digitCount_last hd] at hlow
    obtain rfl : least = 0 := by omega
    have hmem : (d :: before, after) ∈ lastDigit.ends (before, d :: after) := by
      rw [lastDigit_ends hd, if_neg (by simp [hafter])]
      exact List.mem_singleton_self _
    cases more with
    | zero => rw [numberEnds_zero]; exact hmem
    | succ more =>
      rw [List.singleton_append, numberEnds_zero_succ hd]
      exact List.mem_append_right _ hmem
  | @cons d seps w hd hseps hw ih =>
    intro least more before after hafter hlow hhigh
    rw [digitCount_cons hd hseps] at hlow hhigh
    have hskip := @skipSeparators_stretch before seps w after d hseps hw
    have hcur : ((d :: (seps ++ w)).reverse ++ before, after) =
        (w.reverse ++ (seps.reverse ++ d :: before), after) := by simp
    have htext : d :: (seps ++ w) ++ after = d :: (seps ++ (w ++ after)) := by simp
    rw [hcur, htext]
    cases least with
    | succ least =>
      rw [numberEnds_succ hd, hskip]
      exact ih hafter (by omega) (by omega)
    | zero =>
      have hpos := hw.digitCount_pos
      obtain ⟨more, rfl⟩ : ∃ m, more = m + 1 := ⟨more - 1, by omega⟩
      rw [numberEnds_zero_succ hd, hskip]
      exact List.mem_append_left _ (ih hafter (by omega) (by omega))

/-- An end is nearer the end of the text than those after it: the longest is tried first. -/
theorem numberEnds_sorted (least more : ℕ) (cur : Cursor) :
    (numberEnds least more cur).Pairwise fun e e' => e.2.length < e'.2.length := by
  obtain ⟨before, rest⟩ := cur
  induction hn : least + more generalizing least more before rest with
  | zero =>
    obtain ⟨rfl, rfl⟩ : least = 0 ∧ more = 0 := by omega
    cases rest with
    | nil => rw [numberEnds_no_digit rfl]; exact .nil
    | cons d rest =>
      by_cases hd : isDecimal d = true
      · rw [numberEnds_zero, lastDigit_ends hd]
        split
        · exact .nil
        · exact List.pairwise_singleton _ _
      · rw [numberEnds_no_digit (by simpa using hd)]; exact .nil
  | succ n ih =>
    cases rest with
    | nil => rw [numberEnds_no_digit rfl]; exact .nil
    | cons d rest =>
      by_cases hd : isDecimal d = true
      · cases least with
        | succ least =>
          rw [numberEnds_succ hd]
          exact ih _ _ _ _ (by omega)
        | zero =>
          obtain ⟨more, rfl⟩ : ∃ m, more = m + 1 := ⟨more - 1, by omega⟩
          rw [numberEnds_zero_succ hd]
          refine List.pairwise_append.2 ⟨ih _ _ _ _ (by omega), ?_, fun e he e' he' => ?_⟩
          · rw [lastDigit_ends hd]
            split
            · exact .nil
            · exact List.pairwise_singleton _ _
          -- a longer number leaves less of the text than its first digit does
          · obtain ⟨w, hw, -, -⟩ := numberEnds_sound he
            have hlast := Leads.last hd he'
            have hlen : (rest.dropWhile isNumberSeparator).length = w.length + e.2.length := by
              rw [← List.length_append]; exact congrArg _ hw.rest
            have hlen' : (d :: rest).length = ([d] ++ e'.2).length :=
              congrArg List.length hlast.rest
            have hdrop := (List.dropWhile_suffix isNumberSeparator (l := rest)).length_le
            have hpos := hw.stretch.length_pos
            simp only [List.length_cons, List.singleton_append] at hlen'
            omega
      · rw [numberEnds_no_digit (by simpa using hd)]; exact .nil

end Pattern
section Written

/-- A CPF as `000.000.000-00`. -/
def maskedCpf (d : List Char) : List Char :=
  d.take 3 ++ '.' :: ((d.drop 3).take 3 ++ '.' :: ((d.drop 6).take 3 ++ '-' :: d.drop 9))

/-- A CNPJ as `00.000.000/0000-00`. -/
def maskedCnpj (d : List Char) : List Char :=
  d.take 2 ++ '.' :: ((d.drop 2).take 3 ++ '.' :: ((d.drop 5).take 3 ++
    '/' :: ((d.drop 8).take 4 ++ '-' :: d.drop 12)))

/-- The plain and the standard masked form of a number of 11 or 14 digits. -/
inductive NumberForm (d : List Char) : List Char → Prop
  | plainCpf (h : d.length = 11) : NumberForm d d
  | plainCnpj (h : d.length = 14) : NumberForm d d
  | maskedCpf (h : d.length = 11) : NumberForm d (maskedCpf d)
  | maskedCnpj (h : d.length = 14) : NumberForm d (maskedCnpj d)

/-- A piece of a text with no digit before or after. -/
structure Delimited (text before w after : List Char) : Prop where
  text_eq : text = before ++ w ++ after
  notBehind : before.getLast?.any isDecimal = false
  notAhead : after.head?.any isDecimal = false

/-- The number `d` is written in the text as `w`. -/
structure WrittenAt (text before d w after : List Char) : Prop where
  delimited : Delimited text before w after
  decimal : ∀ c ∈ d, isDecimal c = true
  form : NumberForm d w

theorem Stretch.plain {d : List Char} (h : ∀ c ∈ d, isDecimal c = true) (hne : d ≠ []) :
    Stretch d := by
  induction d with
  | nil => exact absurd rfl hne
  | cons c d ih =>
    have hc := h c List.mem_cons_self
    cases d with
    | nil => exact .last hc
    | cons c' d =>
      have hrest := ih (fun x hx => h x (List.mem_cons_of_mem _ hx)) (by simp)
      exact @Stretch.cons c [] (c' :: d) hc (fun _ h => by cases h) hrest

theorem Stretch.join {v w : List Char} {s : Char} (hv : Stretch v)
    (hs : isNumberSeparator s = true) (hw : Stretch w) : Stretch (v ++ s :: w) := by
  induction hv with
  | @last d hd => exact @Stretch.cons d [s] w hd (by simpa using hs) hw
  | cons hd hseps _ ih =>
    rw [List.cons_append, List.append_assoc]
    exact .cons hd hseps ih

theorem onlyDecimals_join {v w : List Char} {s : Char} (hs : isNumberSeparator s = true) :
    onlyDecimals (v ++ s :: w) = onlyDecimals v ++ onlyDecimals w := by
  simp [onlyDecimals, not_isDecimal_of_separator hs]

section Forms

variable {d : List Char} (hdec : ∀ c ∈ d, isDecimal c = true)
include hdec

theorem Stretch.part {k n : ℕ} (hk : k < d.length) (hn : 0 < n) : Stretch ((d.drop k).take n) := by
  refine .plain (fun c hc => hdec c (List.mem_of_mem_drop (List.mem_of_mem_take hc))) fun hnil => ?_
  have := congrArg List.length hnil
  simp only [List.length_take, List.length_drop, List.length_nil] at this
  omega

theorem Stretch.tail {k : ℕ} (hk : k < d.length) : Stretch (d.drop k) := by
  have h := Stretch.part hdec hk (n := d.length) (by omega)
  rwa [List.take_of_length_le (by simp)] at h

theorem onlyDecimals_part (k n : ℕ) : onlyDecimals ((d.drop k).take n) = (d.drop k).take n :=
  onlyDecimals_of_all fun c hc => hdec c (List.mem_of_mem_drop (List.mem_of_mem_take hc))

theorem onlyDecimals_tail (k : ℕ) : onlyDecimals (d.drop k) = d.drop k :=
  onlyDecimals_of_all fun c hc => hdec c (List.mem_of_mem_drop hc)

/-- A written number is one stretch, and its digits are the number. -/
theorem NumberForm.stretch {w : List Char} (h : NumberForm d w) :
    Stretch w ∧ onlyDecimals w = d := by
  have hdot : isNumberSeparator '.' = true := by decide +kernel
  have hslash : isNumberSeparator '/' = true := by decide +kernel
  have hhyphen : isNumberSeparator '-' = true := by decide +kernel
  have hpart := @Stretch.part d hdec
  cases h with
  | plainCpf h | plainCnpj h =>
    exact ⟨.plain hdec (by rintro rfl; cases h), onlyDecimals_of_all hdec⟩
  | maskedCpf h =>
    constructor
    · exact (hpart (k := 0) (by omega) (by omega)).join hdot ((hpart (by omega) (by omega)).join hdot
        ((hpart (by omega) (by omega)).join hhyphen (.tail hdec (by omega))))
    · have hhead := onlyDecimals_part hdec 0 3
      rw [List.drop_zero] at hhead
      rw [SheepContabil.maskedCpf, onlyDecimals_join hdot, onlyDecimals_join hdot,
        onlyDecimals_join hhyphen, hhead, onlyDecimals_part hdec, onlyDecimals_part hdec,
        onlyDecimals_tail hdec]
      rw [show d.drop 9 = (d.drop 6).drop 3 by rw [List.drop_drop], List.take_append_drop,
        show d.drop 6 = (d.drop 3).drop 3 by rw [List.drop_drop], List.take_append_drop,
        List.take_append_drop]
  | maskedCnpj h =>
    constructor
    · exact (hpart (k := 0) (by omega) (by omega)).join hdot ((hpart (by omega) (by omega)).join hdot
        ((hpart (by omega) (by omega)).join hslash ((hpart (by omega) (by omega)).join hhyphen
          (.tail hdec (by omega)))))
    · have hhead := onlyDecimals_part hdec 0 2
      rw [List.drop_zero] at hhead
      rw [SheepContabil.maskedCnpj, onlyDecimals_join hdot, onlyDecimals_join hdot,
        onlyDecimals_join hslash, onlyDecimals_join hhyphen, hhead, onlyDecimals_part hdec,
        onlyDecimals_part hdec, onlyDecimals_part hdec, onlyDecimals_tail hdec]
      rw [show d.drop 12 = (d.drop 8).drop 4 by rw [List.drop_drop], List.take_append_drop,
        show d.drop 8 = (d.drop 5).drop 3 by rw [List.drop_drop], List.take_append_drop,
        show d.drop 5 = (d.drop 2).drop 3 by rw [List.drop_drop], List.take_append_drop,
        List.take_append_drop]

end Forms

theorem NumberForm.digits {d w : List Char} (h : NumberForm d w) : d.length = 11 ∨ d.length = 14 := by
  cases h <;> simp [*]

end Written

section Scan

/-- At a position the longest stretch of 11 to 14 digits with no digit before or after. -/
structure LongestStretch (text before w after : List Char) : Prop where
  delimited : Delimited text before w after
  stretch : Stretch w
  low : 11 ≤ digitCount w
  high : digitCount w ≤ 14
  longest : ∀ w' after', Delimited text before w' after' → Stretch w' → 11 ≤ digitCount w' →
    digitCount w' ≤ 14 → w'.length ≤ w.length

/-- Two pieces of a text that share no character. -/
def Disjoint (before w before' w' : List Char) : Prop :=
  before.length + w.length ≤ before'.length ∨ before'.length + w'.length ≤ before.length

/-- The written numbers of the text stand apart: none shares a character with another, and the
longest stretch of 11 to 14 digits from a position that is not inside a written number is a written
number, or has 12 or 13 digits and shares no character with a written number. -/
structure Apart (text : List Char) : Prop where
  once : ∀ a d w b a' d' w' b', WrittenAt text a d w b → WrittenAt text a' d' w' b' →
    (a = a' ∧ w = w') ∨ Disjoint a w a' w'
  alone : ∀ before w after, LongestStretch text before w after →
    (∀ a d n b, WrittenAt text a d n b →
      ¬(a.length < before.length ∧ before.length < a.length + n.length)) →
    (∃ d, WrittenAt text before d w after) ∨
      ((digitCount w = 12 ∨ digitCount w = 13) ∧
        ∀ a d n b, WrittenAt text a d n b → Disjoint before w a n)

variable {text : List Char}

theorem WrittenAt.stretch {before d w after : List Char} (h : WrittenAt text before d w after) :
    Stretch w ∧ 11 ≤ digitCount w ∧ digitCount w ≤ 14 := by
  obtain ⟨hw, hd⟩ := h.form.stretch h.decimal
  have hlen := h.form.digits
  refine ⟨hw, ?_, ?_⟩ <;> rw [digitCount, hd] <;> omega

/-- A delimited stretch of 11 to 14 digits at a cursor is a match there. -/
theorem mem_ends_documentNumber {before rest : List Char} (htext : text = before.reverse ++ rest)
    {w after : List Char} (hw : Delimited text before.reverse w after) (hstretch : Stretch w)
    (hlow : 11 ≤ digitCount w) (hhigh : digitCount w ≤ 14) :
    (w.reverse ++ before, after) ∈ documentNumberPattern.ends (before, rest) := by
  have hrest : rest = w ++ after := by
    have := hw.text_eq
    rw [htext, List.append_assoc] at this
    exact List.append_cancel_left this
  have hbehind : before.head?.any isDecimal = false := by
    have := hw.notBehind
    rwa [List.getLast?_reverse] at this
  rw [ends_documentNumber, if_neg (by simp [hbehind]), hrest]
  exact numberEnds_complete hstretch hw.notAhead hlow (by omega)

/-- The pattern at a cursor: no stretch of 11 to 14 digits, or first the longest. -/
theorem documentNumber_ends {before rest : List Char} (htext : text = before.reverse ++ rest) :
    (documentNumberPattern.ends (before, rest) = [] ∧
      ∀ w after, Delimited text before.reverse w after → Stretch w → 11 ≤ digitCount w →
        ¬ digitCount w ≤ 14) ∨
    ∃ w after others, documentNumberPattern.ends (before, rest) =
        (w.reverse ++ before, after) :: others ∧ rest = w ++ after ∧
      LongestStretch text before.reverse w after := by
  rcases hends : documentNumberPattern.ends (before, rest) with _ | ⟨e, others⟩
  · refine .inl ⟨rfl, fun w after hw hstretch hlow hhigh => ?_⟩
    have hmem := mem_ends_documentNumber htext hw hstretch hlow hhigh
    rw [hends] at hmem
    cases hmem
  · rw [ends_documentNumber] at hends
    split at hends
    · cases hends
    · rename_i hbehind
      -- the matches come longest first, so another stretch here is not longer than the first
      have hsorted := numberEnds_sorted 10 3 (before, rest)
      rw [hends, List.pairwise_cons] at hsorted
      obtain ⟨w, hw, hlow, hhigh⟩ := numberEnds_sound (hends ▸ List.mem_cons_self)
      obtain ⟨before', after⟩ := e
      have hbefore : before' = w.reverse ++ before := hw.before
      have hrest : rest = w ++ after := hw.rest
      subst hbefore
      refine .inr ⟨w, after, others, rfl, hrest, ⟨by rw [htext, hrest, List.append_assoc], ?_,
        hw.notAhead⟩, hw.stretch, hlow, hhigh, fun w' after' hw' hstretch' hlow' hhigh' => ?_⟩
      · rw [List.getLast?_reverse]
        simpa using hbehind
      have hlen : w.length + after.length = w'.length + after'.length := by
        have := congrArg List.length (htext.symm.trans hw'.text_eq)
        rw [hrest] at this
        simp only [List.length_append, List.length_reverse] at this
        omega
      have hmem := mem_ends_documentNumber htext hw' hstretch' hlow' hhigh'
      rw [ends_documentNumber, if_neg hbehind, hends, List.mem_cons] at hmem
      rcases hmem with heq | hin
      · have hafter : after' = after := congrArg Prod.snd heq
        rw [hafter] at hlen
        omega
      · have hlonger := hsorted.1 _ hin
        simp only at hlonger
        omega

/-- Not inside a written number. -/
def Outside (text : List Char) (position : ℕ) : Prop :=
  ∀ a d n b, WrittenAt text a d n b → ¬(a.length < position ∧ position < a.length + n.length)

/-- What is matched is a written number, or of 12 or 13 digits. -/
def Harmless (text m : List Char) : Prop :=
  (∃ before d after, WrittenAt text before d m after) ∨ digitCount m = 12 ∨ digitCount m = 13

/-- No number begins where the text ends. -/
theorem not_written_at_end {before a d w b : List Char} (htext : text = before.reverse)
    (hw : WrittenAt text a d w b) : a.length < before.length := by
  have hpos := hw.stretch.1.length_pos
  have hlen := congrArg List.length (htext.symm.trans hw.delimited.text_eq)
  simp only [List.length_append, List.length_reverse] at hlen
  omega

/-- The scan from a position outside the numbers: it takes each number after it. -/
theorem scan_documentNumber (h : Apart text) :
    ∀ (n : ℕ) (before rest : List Char), rest.length ≤ n → text = before.reverse ++ rest →
      Outside text before.length →
      (∀ a d w b, WrittenAt text a d w b → before.length ≤ a.length →
        w ∈ documentNumberPattern.scan n (before, rest)) ∧
      ∀ m ∈ documentNumberPattern.scan n (before, rest), Harmless text m := by
  intro n
  induction n with
  | zero =>
    intro before rest hlen htext _
    obtain rfl : rest = [] := List.eq_nil_of_length_eq_zero (by omega)
    rw [List.append_nil] at htext
    exact ⟨fun a d w b hw hle => absurd (not_written_at_end htext hw) (Nat.not_lt.2 hle),
      by simp [Pattern.scan]⟩
  | succ n ih =>
    intro before rest hlen htext houtside
    cases rest with
    | nil =>
      rw [List.append_nil] at htext
      exact ⟨fun a d w b hw hle => absurd (not_written_at_end htext hw) (Nat.not_lt.2 hle),
        by simp [Pattern.scan]⟩
    | cons c rest =>
      -- a number at the cursor stands right after what was read
      have hat : ∀ a d w b, WrittenAt text a d w b → a.length = before.length →
          WrittenAt text before.reverse d w b := by
        intro a d w b hw hlen
        have heq : a = before.reverse := by
          have := htext.symm.trans (hw.delimited.text_eq.trans (List.append_assoc _ _ _))
          exact ((List.append_inj this (by simp [hlen])).1).symm
        rwa [heq] at hw
      rcases documentNumber_ends htext with ⟨hends, hnone⟩ | ⟨w, after, others, hends, hrest, hw⟩
      · have hstart : ∀ a d w b, WrittenAt text a d w b → a.length ≠ before.length := by
          intro a d w b hw hlen
          have hw := hat a d w b hw hlen
          exact hnone w b hw.delimited hw.stretch.1 hw.stretch.2.1 hw.stretch.2.2
        have hscan : documentNumberPattern.scan (n + 1) (before, c :: rest) =
            documentNumberPattern.scan n (c :: before, rest) := by
          rw [Pattern.scan, hends]
        rw [hscan]
        obtain ⟨hcomplete, hsound⟩ := ih (c :: before) rest (by simpa using hlen) (by simpa using htext)
          (fun a d w b hw hin => by
            have := hstart a d w b hw
            rw [List.length_cons] at hin
            exact houtside a d w b hw ⟨by omega, by omega⟩)
        refine ⟨fun a d w b hw hle => hcomplete a d w b hw ?_, hsound⟩
        have := hstart a d w b hw
        rw [List.length_cons]
        omega
      · have hscan : documentNumberPattern.scan (n + 1) (before, c :: rest) =
            w :: documentNumberPattern.scan n (w.reverse ++ before, after) := by
          rw [Pattern.scan, hends]
          simp only [hrest, List.length_append, Nat.add_sub_cancel, List.take_left]
        have hpos := hw.stretch.length_pos
        have hafter : after.length ≤ n := by
          have := congrArg List.length hrest
          simp only [List.length_append, List.length_cons] at this hlen
          omega
        have hlenb : before.reverse.length = before.length := List.length_reverse
        -- the match is a number, or shares nothing with one
        have hcases := h.alone _ _ _ hw (by rw [hlenb]; exact houtside)
        have hmeet : ∀ a d v b, WrittenAt text a d v b →
            v = w ∨ before.length + w.length ≤ a.length ∨ a.length + v.length ≤ before.length := by
          intro a d v b hv
          rcases hcases with ⟨e, he⟩ | ⟨-, hdisjoint⟩
          · rcases h.once _ _ _ _ _ _ _ _ he hv with ⟨-, heq⟩ | hdis
            · exact .inl heq.symm
            · rw [Disjoint, hlenb] at hdis; exact .inr hdis
          · have hdis := hdisjoint a d v b hv
            rw [Disjoint, hlenb] at hdis; exact .inr hdis
        have hnext : Outside text (w.reverse ++ before).length := by
          intro a d v b hv hin
          rw [List.length_append, List.length_reverse] at hin
          rcases hcases with ⟨e, he⟩ | ⟨-, hdisjoint⟩
          · rcases h.once _ _ _ _ _ _ _ _ he hv with ⟨ha, hv'⟩ | hdis
            · subst ha hv'
              rw [hlenb] at hin
              omega
            · rw [Disjoint, hlenb] at hdis
              omega
          · have hdis := hdisjoint a d v b hv
            rw [Disjoint, hlenb] at hdis
            omega
        obtain ⟨hcomplete, hsound⟩ := ih (w.reverse ++ before) after hafter
          (by rw [htext, hrest]; simp) hnext
        rw [hscan]
        refine ⟨fun a d v b hv hle => ?_, fun m hm => ?_⟩
        · have hvpos := hv.stretch.1.length_pos
          rcases hmeet a d v b hv with rfl | hright | hleft
          · exact List.mem_cons_self
          · refine List.mem_cons_of_mem _ (hcomplete a d v b hv ?_)
            rw [List.length_append, List.length_reverse]
            omega
          · omega
        · rcases List.mem_cons.1 hm with rfl | hm
          · rcases hcases with ⟨e, he⟩ | ⟨hcount, -⟩
            · exact .inl ⟨_, _, _, he⟩
            · exact .inr hcount
          · exact hsound m hm

end Scan

section Recognition

/-- The number of the client is written in the text, by itself. -/
def NumberWritten (text : String) (client : FiscalClient) : Prop :=
  ∃ before w after, WrittenAt text.toList before client.documentNumber.toList w after

/-- **In a text whose numbers stand apart, the clients recognised by number are those of the
catalogue whose number is written in it**, plain or in the standard mask. -/
theorem numberedClients_of_apart (text : String) (clients : List FiscalClient)
    (h : Apart text.toList) :
    ∀ client ∈ clients,
      (client ∈ numberedClients text clients ↔ NumberWritten text client) := by
  intro client hclient
  obtain ⟨hcomplete, hsound⟩ := scan_documentNumber h text.toList.length [] text.toList le_rfl rfl
    (fun a d n b _ hin => Nat.not_lt_zero _ hin.1)
  have hmem : client ∈ numberedClients text clients ↔
      ∃ m ∈ documentNumberPattern.findall text.toList,
        ((onlyDecimals m).length = 11 ∨ (onlyDecimals m).length = 14) ∧
        String.ofList (onlyDecimals m) = client.documentNumber := by
    simp only [numberedClients, documentNumbersIn, List.mem_filter, hclient, true_and,
      List.contains_iff_mem, List.mem_map, Bool.or_eq_true, beq_iff_eq]
    constructor
    · rintro ⟨digits, ⟨⟨m, hm, rfl⟩, hlen⟩, heq⟩
      exact ⟨m, hm, hlen, heq⟩
    · rintro ⟨m, hm, hlen, heq⟩
      exact ⟨_, ⟨⟨m, hm, rfl⟩, hlen⟩, heq⟩
  rw [hmem]
  constructor
  · rintro ⟨m, hm, hlen, heq⟩
    rcases hsound m hm with ⟨before, d, after, hw⟩ | hcount
    · have hd := (hw.form.stretch hw.decimal).2
      rw [hd] at heq
      have hd' : client.documentNumber.toList = d := by rw [← heq, String.toList_ofList]
      exact ⟨before, m, after, hd' ▸ hw⟩
    · rw [digitCount] at hcount
      omega
  · rintro ⟨before, w, after, hw⟩
    refine ⟨w, hcomplete before _ w after hw (Nat.zero_le _), ?_, ?_⟩
    · rw [(hw.form.stretch hw.decimal).2]
      exact hw.form.digits
    · rw [(hw.form.stretch hw.decimal).2, String.ofList_toList]

/-- The optional repetitions of `repEnds`. -/
def optionalEnds (ends : Cursor → List Cursor) : ℕ → Cursor → List Cursor
  | 0, cur => [cur]
  | more + 1, cur => (ends cur).flatMap (optionalEnds ends more) ++ [cur]

/-- `repEnds` by recursion on each of its bounds, which evaluates. -/
def repeatedEnds (ends : Cursor → List Cursor) : ℕ → ℕ → Cursor → List Cursor
  | 0, more, cur => optionalEnds ends more cur
  | least + 1, more, cur => (ends cur).flatMap (repeatedEnds ends least more)

theorem repEnds_eq (ends : Cursor → List Cursor) (least more : ℕ) :
    Pattern.repEnds ends least more = repeatedEnds ends least more := by
  induction least with
  | zero =>
    induction more with
    | zero => funext cur; rw [Pattern.repEnds]; rfl
    | succ more ih => funext cur; rw [Pattern.repEnds, ih]; rfl
  | succ least ih => funext cur; rw [Pattern.repEnds, ih]; rfl

/-- `scan` over a function for the ends. -/
def scanWith (ends : Cursor → List Cursor) : ℕ → Cursor → List (List Char)
  | 0, _ => []
  | _ + 1, (_, []) => []
  | n + 1, (before, c :: rest) =>
    match ends (before, c :: rest) with
    | (before', rest') :: _ =>
      (c :: rest).take ((c :: rest).length - rest'.length) :: scanWith ends n (before', rest')
    | [] => scanWith ends n (c :: before, rest)

theorem scan_eq (pattern : Pattern) :
    ∀ n cur, pattern.scan n cur = scanWith pattern.ends n cur := by
  intro n
  induction n with
  | zero => intro cur; rfl
  | succ n ih =>
    rintro ⟨before, _ | ⟨c, rest⟩⟩
    · rfl
    · rw [Pattern.scan, scanWith]
      cases pattern.ends (before, c :: rest) with
      | nil => exact ih _
      | cons e others => exact congrArg _ (ih _)

/-- The numbers of a text, evaluated. -/
theorem findall_documentNumber (text : List Char) :
    documentNumberPattern.findall text =
      scanWith (fun cur => if cur.1.head?.any isDecimal then [] else
        (repeatedEnds digitUnit.ends 10 3 cur).flatMap lastDigit.ends) text.length ([], text) := by
  rw [Pattern.findall, scan_eq]
  congr 1
  funext cur
  rw [ends_documentNumber, numberEnds, repEnds_eq]

section Neighbour

theorem Stretch.digit_or_separator {w : List Char} (h : Stretch w) :
    ∀ c ∈ w, isDecimal c = true ∨ isNumberSeparator c = true := by
  induction h with
  | last hd =>
    intro c hc
    rw [List.mem_singleton] at hc
    exact .inl (hc ▸ hd)
  | cons hd hseps _ ih =>
    intro c hc
    rcases List.mem_cons.1 hc with rfl | hc
    · exact .inl hd
    · rcases List.mem_append.1 hc with hc | hc
      · exact .inr (hseps c hc)
      · exact ih c hc

theorem Stretch.getLast {w : List Char} (h : Stretch w) : ∃ v d, w = v ++ [d] ∧ isDecimal d = true := by
  induction h with
  | last hd => exact ⟨[], _, rfl, hd⟩
  | @cons d seps w _ _ _ ih =>
    obtain ⟨v, e, rfl, he⟩ := ih
    exact ⟨d :: (seps ++ v), e, by simp, he⟩

theorem digitCount_append (v w : List Char) : digitCount (v ++ w) = digitCount v + digitCount w := by
  simp [digitCount, onlyDecimals]

theorem digitCount_pos_of_mem {w : List Char} {d : Char} (hmem : d ∈ w) (hd : isDecimal d = true) :
    0 < digitCount w :=
  List.length_pos_of_mem (List.mem_filter.2 ⟨hmem, hd⟩)

variable {l r : List Char} {s : Char}

/-- In a text with a stretch of 11 digits, then a mark, then fewer digits, the stretches of 11 digits
or more are that one. -/
theorem Delimited.stretch_before_mark (hs : isDecimal s = false) (hsep : isNumberSeparator s = false)
    (hl : Stretch l) (hcount : digitCount l = 11) (hr : digitCount r < 11) {a w b : List Char}
    (h : Delimited (l ++ s :: r) a w b) (hw : Stretch w) (hlow : 11 ≤ digitCount w) :
    a = [] ∧ w = l := by
  have hmark : s ∉ w := by
    intro hmem
    rcases hw.digit_or_separator s hmem with hdec | hdec
    · exact Bool.false_ne_true (hs.symm.trans hdec)
    · exact Bool.false_ne_true (hsep.symm.trans hdec)
  have htext := h.text_eq
  rw [List.append_assoc] at htext
  rcases List.append_eq_append_iff.1 htext with ⟨a', rfl, hrest⟩ | ⟨c, rfl, hrest⟩
  -- behind the mark there are too few digits
  · cases a' with
    | nil =>
      obtain ⟨d, v, rfl, hd⟩ := hw.head
      obtain rfl : s = d := (List.cons.inj hrest).1
      exact absurd List.mem_cons_self hmark
    | cons e a' =>
      have hsplit : r = a' ++ (w ++ b) := (List.cons.inj hrest).2
      rw [hsplit, digitCount_append, digitCount_append] at hr
      omega
  · obtain ⟨x, rfl, -⟩ : ∃ x, c = w ++ x ∧ b = x ++ s :: r := by
      rcases List.append_eq_append_iff.1 hrest with ⟨x, hc, hb⟩ | ⟨x, hx, hb⟩
      · exact ⟨x, hc, hb⟩
      · cases x with
        | nil => exact ⟨[], by rw [List.append_nil] at hx ⊢; exact hx.symm, hb.symm⟩
        | cons e x =>
          obtain rfl : s = e := (List.cons.inj hb).1
          exact absurd (hx ▸ List.mem_append_right c List.mem_cons_self) hmark
    rw [digitCount_append, digitCount_append] at hcount
    -- the stretch begins and ends with a digit
    obtain rfl : a = [] := by
      by_contra ha
      obtain ⟨d, v, hv, hd⟩ := hl.head
      obtain ⟨e, a, rfl⟩ := List.exists_cons_of_ne_nil ha
      obtain rfl : e = d := (List.cons.inj hv).1
      have := digitCount_pos_of_mem (List.mem_cons_self (a := e) (l := a)) hd
      omega
    obtain rfl : x = [] := by
      by_contra hx
      obtain ⟨v, d, hv, hd⟩ := hl.getLast
      have hmem : d ∈ x := by
        have hlast : (w ++ x).getLast? = some d := by
          rw [List.nil_append] at hv
          rw [hv, List.getLast?_concat]
        rw [List.getLast?_append_of_ne_nil _ hx] at hlast
        exact List.mem_of_getLast? hlast
      have := digitCount_pos_of_mem hmem hd
      omega
    exact ⟨rfl, by rw [List.nil_append, List.append_nil]⟩

/-- A written CPF before a mark and fewer digits stands apart. -/
theorem apart_before_mark (hs : isDecimal s = false) (hsep : isNumberSeparator s = false)
    {d : List Char} (hdec : ∀ c ∈ d, isDecimal c = true) (hform : NumberForm d l)
    (hlen : d.length = 11) (hr : digitCount r < 11) : Apart (l ++ s :: r) := by
  obtain ⟨hl, hdigits⟩ := hform.stretch hdec
  have hcount : digitCount l = 11 := by rw [digitCount, hdigits, hlen]
  have hplace : ∀ a w b, Delimited (l ++ s :: r) a w b → Stretch w → 11 ≤ digitCount w →
      a = [] ∧ w = l := fun a w b h => h.stretch_before_mark hs hsep hl hcount hr
  refine ⟨fun a e w b a' e' w' b' h h' => ?_, fun before w after h _ => ?_⟩
  · obtain ⟨hw, hlow, -⟩ := h.stretch
    obtain ⟨hw', hlow', -⟩ := h'.stretch
    obtain ⟨rfl, rfl⟩ := hplace _ _ _ h.delimited hw hlow
    obtain ⟨rfl, rfl⟩ := hplace _ _ _ h'.delimited hw' hlow'
    exact .inl ⟨rfl, rfl⟩
  · obtain ⟨rfl, rfl⟩ := hplace _ _ _ h.delimited h.stretch h.low
    exact .inl ⟨d, h.delimited, hdec, hform⟩

end Neighbour

/-- The masked number of a client, with a number beside it. -/
theorem numberedClients_of_apart_masked :
    Apart "123.456.789-01; 7".toList ∧
      ({ code := "A", name := "Alfa", documentNumber := "12345678901" } ∈
          numberedClients "123.456.789-01; 7"
            [{ code := "A", name := "Alfa", documentNumber := "12345678901" },
              { code := "B", name := "Beta", documentNumber := "98765432100" }] ↔
        NumberWritten "123.456.789-01; 7"
          { code := "A", name := "Alfa", documentNumber := "12345678901" }) := by
  have hdec : ∀ c ∈ "12345678901".toList, isDecimal c = true := by
    have h : "12345678901".toList.all isDecimal = true := by decide +kernel
    simpa only [List.all_eq_true] using h
  have hapart : Apart "123.456.789-01; 7".toList :=
    @apart_before_mark "123.456.789-01".toList " 7".toList ';' (by decide +kernel)
      (by decide +kernel) "12345678901".toList hdec (.maskedCpf rfl) rfl (by decide +kernel)
  exact ⟨hapart, numberedClients_of_apart _ _ hapart _ List.mem_cons_self⟩

/-- Where they do not: the number after "1 " is lost, and "123" and "45678901" make a number. -/
theorem neighbours_join :
    (NumberWritten "1 98765432100; 123 45678901"
        { code := "B", name := "Beta", documentNumber := "98765432100" } ∧
      { code := "B", name := "Beta", documentNumber := "98765432100" } ∉
        numberedClients "1 98765432100; 123 45678901"
          [{ code := "A", name := "Alfa", documentNumber := "12345678901" },
            { code := "B", name := "Beta", documentNumber := "98765432100" }]) ∧
    { code := "A", name := "Alfa", documentNumber := "12345678901" } ∈
        numberedClients "1 98765432100; 123 45678901"
          [{ code := "A", name := "Alfa", documentNumber := "12345678901" },
            { code := "B", name := "Beta", documentNumber := "98765432100" }] ∧
      ¬ NumberWritten "1 98765432100; 123 45678901"
        { code := "A", name := "Alfa", documentNumber := "12345678901" } := by
  have hnumbers : documentNumbersIn "1 98765432100; 123 45678901" = ["12345678901"] := by
    rw [documentNumbersIn, findall_documentNumber]
    decide +kernel
  refine ⟨⟨⟨"1 ".toList, "98765432100".toList, "; 123 45678901".toList, ⟨rfl, ?_, ?_⟩, ?_,
    .plainCpf rfl⟩, ?_⟩, ?_, ?_⟩
  · decide +kernel
  · decide +kernel
  · have h : "98765432100".toList.all isDecimal = true := by decide +kernel
    simpa only [List.all_eq_true] using h
  · simp [numberedClients, hnumbers]
  · simp [numberedClients, hnumbers]
  · rintro ⟨before, w, after, h⟩
    have hinfix : w <:+: "1 98765432100; 123 45678901".toList :=
      ⟨before, after, h.delimited.text_eq.symm⟩
    rcases h.form with _ | hlen | _ | hlen
    · exact absurd hinfix (by decide +kernel)
    · exact absurd hlen (by decide)
    · exact absurd hinfix (by decide +kernel)
    · exact absurd hlen (by decide)

end Recognition

end SheepContabil
