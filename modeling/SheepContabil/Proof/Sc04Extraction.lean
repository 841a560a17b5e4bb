import SheepContabil.Proof.Sc04Numbers
import SheepContabil.Spec.Sc04Extraction

/-!
# The text of a document

`_normalize_text` changes gaps only. So the words of a text stay as they are, and so do the document
numbers that the exact match finds in it: a number may have blanks between its digits, but what
counts of them is whether there are any.

* `numbers_respaced`: texts that differ in their gaps have the same document numbers.
* `normalizeText_faithful`: **the normal form of a text** has its words and its numbers, and a second
  pass leaves it as it is.
* `extract_of_validated`: **what an accepted upload gives** to the classifier.
-/

namespace SheepContabil

open Py

section Numbers

open Pattern

variable {before before' rest rest' s t u v : List Char} {n : ℕ}

theorem space_not_decimal : ∀ c, isSpace c = true → isDecimal c = false := by
  intro c hc
  exact not_isDecimal_of_separator (by simp [isNumberSeparator, hc])

theorem space_separator : ∀ c, isSpace c = true → isNumberSeparator c = true := by
  intro c hc
  simp [isNumberSeparator, hc]

/-- Two ends of a match, each after a digit, before texts that differ in their gaps. -/
structure SameEnd (e e' : Cursor) : Prop where
  rest : Respaced isSpace e.2 e'.2
  before : e.1.head?.any isDecimal = true
  before' : e'.1.head?.any isDecimal = true

theorem lastDigit_respaced {d : Char} (hd : isDecimal d = true) (h : Respaced isSpace rest rest') :
    List.Forall₂ SameEnd (lastDigit.ends (before, d :: rest))
      (lastDigit.ends (before', d :: rest')) := by
  rw [lastDigit_ends hd, lastDigit_ends hd, h.head_any space_not_decimal]
  split
  · exact .nil
  · exact .cons ⟨h, by simpa using hd, by simpa using hd⟩ .nil

/-- **A match at a cursor** does not depend on the widths of the gaps. -/
theorem numberEnds_respaced (least more : ℕ) (h : Respaced isSpace rest rest') :
    List.Forall₂ SameEnd (numberEnds least more (before, rest))
      (numberEnds least more (before', rest')) := by
  induction hn : least + more generalizing least more before before' rest rest' with
  | zero =>
    obtain ⟨rfl, rfl⟩ : least = 0 ∧ more = 0 := by omega
    cases hhead : rest.head?.any isDecimal with
    | false =>
      rw [numberEnds_no_digit hhead,
        numberEnds_no_digit ((h.head_any space_not_decimal).symm.trans hhead)]
      exact .nil
    | true =>
      obtain ⟨d, u, rfl, hd⟩ : ∃ d u, rest = d :: u ∧ isDecimal d = true := by
        cases rest with
        | nil => cases hhead
        | cons d u => exact ⟨d, u, rfl, hhead⟩
      obtain ⟨v, rfl, huv⟩ := h.cons_inv (not_isSpace_of_isDecimal hd)
      rw [numberEnds_zero, numberEnds_zero]
      exact lastDigit_respaced hd huv
  | succ n ih =>
    cases hhead : rest.head?.any isDecimal with
    | false =>
      rw [numberEnds_no_digit hhead,
        numberEnds_no_digit ((h.head_any space_not_decimal).symm.trans hhead)]
      exact .nil
    | true =>
      obtain ⟨d, u, rfl, hd⟩ : ∃ d u, rest = d :: u ∧ isDecimal d = true := by
        cases rest with
        | nil => cases hhead
        | cons d u => exact ⟨d, u, rfl, hhead⟩
      obtain ⟨v, rfl, huv⟩ := h.cons_inv (not_isSpace_of_isDecimal hd)
      have hskip := huv.dropWhile space_separator
      cases least with
      | succ least =>
        rw [numberEnds_succ hd, numberEnds_succ hd]
        exact ih least more hskip (by omega)
      | zero =>
        obtain ⟨more, rfl⟩ : ∃ m, more = m + 1 := ⟨more - 1, by omega⟩
        rw [numberEnds_zero_succ hd, numberEnds_zero_succ hd]
        exact List.rel_append (ih 0 more hskip (by omega)) (lastDigit_respaced hd huv)

/-- The scan goes past what is no digit. -/
theorem scan_skip (hs : ∀ c ∈ s, isDecimal c = false) :
    ∀ {n before}, s.length ≤ n → documentNumberPattern.scan n (before, s ++ t) =
      documentNumberPattern.scan (n - s.length) (s.reverse ++ before, t) := by
  induction s with
  | nil => intro n before _; rfl
  | cons c s ih =>
    intro n before hn
    obtain ⟨n, rfl⟩ : ∃ m, n = m + 1 := ⟨n - 1, by rw [List.length_cons] at hn; omega⟩
    rw [List.length_cons, Nat.add_le_add_iff_right] at hn
    have hnone : documentNumberPattern.ends (before, c :: (s ++ t)) = [] := by
      rw [ends_documentNumber]
      split
      · rfl
      · exact numberEnds_no_digit (by simpa using hs c List.mem_cons_self) 10 3
    rw [List.cons_append, scan, hnone]
    dsimp only
    rw [ih (fun d hd => hs d (List.mem_cons_of_mem _ hd)) hn, List.length_cons, Nat.succ_sub_succ,
      List.reverse_cons, List.append_assoc]
    rfl

theorem scan_blank (hs : ∀ c ∈ s, isDecimal c = false) (hn : s.length ≤ n) :
    documentNumberPattern.scan n (before, s) = [] := by
  have h : documentNumberPattern.scan n (before, s ++ []) = _ := scan_skip hs hn
  rw [List.append_nil] at h
  rw [h]
  cases n - s.length <;> rfl

/-- The digits of a match, from those before and after it. -/
theorem onlyDecimals_taken {c : Char} {u w r : List Char} (h : c :: u = w ++ r) :
    onlyDecimals ((c :: u).take ((c :: u).length - r.length)) ++ onlyDecimals r =
      onlyDecimals (c :: u) := by
  rw [h, List.length_append, Nat.add_sub_cancel, List.take_left, onlyDecimals_append]

/-- **The scan of texts that differ in their gaps** finds the same numbers. -/
theorem scan_respaced {n n' : ℕ} (hn : rest.length ≤ n) (hn' : rest'.length ≤ n')
    (hbefore : before.head?.any isDecimal = before'.head?.any isDecimal)
    (h : Respaced isSpace rest rest') :
    (documentNumberPattern.scan n (before, rest)).map onlyDecimals =
      (documentNumberPattern.scan n' (before', rest')).map onlyDecimals := by
  have hspaces : ∀ s : List Char, (∀ c ∈ s, isSpace c = true) → ∀ c ∈ s, isDecimal c = false :=
    fun s hs c hc => space_not_decimal c (hs c hc)
  induction hlen : rest.length using Nat.strong_induction_on
    generalizing n n' before before' rest rest' with
  | _ len ih =>
    subst hlen
    cases h with
    | tail hs hs' => rw [scan_blank (hspaces _ hs) hn, scan_blank (hspaces _ hs') hn']
    | @gap s s' u v hne hne' hs hs' h =>
      rw [List.length_append] at hn hn'
      rw [scan_skip (hspaces _ hs) (by omega), scan_skip (hspaces _ hs') (by omega)]
      have hpos : 0 < s.length := List.length_pos_iff.2 hne
      have hlast : ∀ w b : List Char, w ≠ [] → (∀ c ∈ w, isSpace c = true) →
          (w.reverse ++ b).head?.any isDecimal = false := by
        intro w b hw hblank
        obtain ⟨init, d, rfl⟩ := List.eq_nil_or_concat w |>.resolve_left hw
        simpa using space_not_decimal d (hblank d (by simp))
      exact ih u.length (by simp; omega) (by omega) (by omega)
        ((hlast _ _ hne hs).trans (hlast _ _ hne' hs').symm) h rfl
    | @keep c u v hc h =>
      obtain ⟨n, rfl⟩ : ∃ m, n = m + 1 := ⟨n - 1, by rw [List.length_cons] at hn; omega⟩
      obtain ⟨n', rfl⟩ : ∃ m, n' = m + 1 := ⟨n' - 1, by rw [List.length_cons] at hn'; omega⟩
      rw [List.length_cons, Nat.add_le_add_iff_right] at hn hn'
      have hends : List.Forall₂ SameEnd (documentNumberPattern.ends (before, c :: u))
          (documentNumberPattern.ends (before', c :: v)) := by
        rw [ends_documentNumber, ends_documentNumber]
        dsimp only
        rw [hbefore]
        split
        · exact .nil
        · exact numberEnds_respaced 10 3 (.keep hc h)
      have hsuffix : ∀ {b r e}, e ∈ documentNumberPattern.ends (b, r) → ∃ w, w ≠ [] ∧
          r = w ++ e.2 := by
        intro b r e he
        rw [ends_documentNumber] at he
        split at he
        · cases he
        · obtain ⟨w, hw, -⟩ := numberEnds_sound he
          exact ⟨w, List.length_pos_iff.1 hw.stretch.length_pos, hw.rest⟩
      rw [scan, scan]
      generalize hE : documentNumberPattern.ends (before, c :: u) = E at hends
      generalize hE' : documentNumberPattern.ends (before', c :: v) = E' at hends
      cases hends with
      | nil =>
        dsimp only
        exact ih u.length (Nat.lt_succ_self _) hn hn' rfl h rfl
      | @cons e e' others others' hfirst hothers =>
        obtain ⟨w, hw, hrest⟩ := hsuffix (hE ▸ List.mem_cons_self)
        obtain ⟨w', hw', hrest'⟩ := hsuffix (hE' ▸ List.mem_cons_self)
        have hdigits : ∀ {a b : List Char}, Respaced isSpace a b → onlyDecimals a = onlyDecimals b :=
          fun hab => hab.filter_eq space_not_decimal
        dsimp only
        rw [List.map_cons, List.map_cons]
        have htaken : onlyDecimals ((c :: u).take ((c :: u).length - e.2.length)) =
            onlyDecimals ((c :: v).take ((c :: v).length - e'.2.length)) := by
          have hu := onlyDecimals_taken hrest
          have hv := onlyDecimals_taken hrest'
          rw [hdigits (.keep hc h), ← hv, hdigits hfirst.rest] at hu
          exact List.append_cancel_right hu
        have hlength := congrArg List.length hrest
        have hlength' := congrArg List.length hrest'
        have hpos : 0 < w.length := List.length_pos_iff.2 hw
        have hpos' : 0 < w'.length := List.length_pos_iff.2 hw'
        rw [List.length_append, List.length_cons] at hlength hlength'
        rw [htaken]
        exact congrArg _ (ih e.2.length (by rw [List.length_cons]; omega) (by omega) (by omega)
          (hfirst.before.trans hfirst.before'.symm) hfirst.rest rfl)

/-- **Texts that differ in their gaps** have the same document numbers. -/
theorem numbers_respaced (h : Respaced isSpace u v) :
    documentNumbersIn (String.ofList u) = documentNumbersIn (String.ofList v) := by
  rw [documentNumbersIn, documentNumbersIn, String.toList_ofList, String.toList_ofList, findall,
    findall, scan_respaced le_rfl le_rfl rfl h]

/-- The blanks before a text do not matter either. -/
theorem numbers_blanks_append (hs : ∀ c ∈ s, isSpace c = true) :
    documentNumbersIn (String.ofList (s ++ t)) = documentNumbersIn (String.ofList t) := by
  have hnot : ∀ c ∈ s, isDecimal c = false := fun c hc => space_not_decimal c (hs c hc)
  have hlast : (s.reverse ++ []).head?.any isDecimal = ([] : List Char).head?.any isDecimal := by
    rw [List.append_nil]
    cases hhead : s.reverse.head? with
    | none => rfl
    | some c => exact hnot c (List.mem_reverse.1 (List.mem_of_head? hhead))
  rw [documentNumbersIn, documentNumbersIn, String.toList_ofList, String.toList_ofList, findall,
    findall, scan_skip hnot (by simp), scan_respaced (by simp) le_rfl hlast (.refl t)]

end Numbers

section Normal

variable {t : List Char} {c : Char}

theorem isSpace_of_isLineBreak : ∀ c, isLineBreak c = true → isSpace c = true := by
  intro c hc
  simp only [isLineBreak, Bool.or_eq_true, Bool.and_eq_true, decide_eq_true_eq, beq_iff_eq] at hc
  simp only [isSpace, Str.isSpace, Bool.or_eq_true, decide_eq_true_eq, beq_iff_eq]
  omega

theorem mem_replaceCrLf : c ∈ replaceCrLf t → c = '\n' ∨ c ∈ t := by
  fun_induction replaceCrLf t with
  | case1 => exact .inr
  | case2 rest ih =>
    intro h
    rcases List.mem_cons.1 h with rfl | h
    · exact .inl rfl
    · exact (ih h).imp_right fun h => by simp [h]
  | case3 d rest hnot ih =>
    intro h
    rcases List.mem_cons.1 h with rfl | h
    · exact .inr List.mem_cons_self
    · exact (ih h).imp_right (List.mem_cons_of_mem _)

theorem mem_unixLines (h : c ∈ unixLines t) : c = '\n' ∨ c ∈ t ∧ c ≠ '\r' := by
  obtain ⟨d, hd, rfl⟩ := List.mem_map.1 h
  by_cases hcr : d = '\r'
  · exact .inl (if_pos hcr)
  · rw [if_neg hcr]
    exact (mem_replaceCrLf hd).imp_right fun h => ⟨h, hcr⟩

theorem not_mem_unixLines : '\r' ∉ unixLines t := by
  intro h
  rcases mem_unixLines h with h | h
  · cases h
  · exact h.2 rfl

theorem respaced_unixLines (t : List Char) : Respaced isSpace t (unixLines t) := by
  unfold unixLines
  fun_induction replaceCrLf t with
  | case1 => exact .refl []
  | case2 rest ih =>
    exact .widen (by decide) (by decide) (.blank (by decide) (by decide) ih)
  | case3 c rest hnot ih =>
    rw [List.map_cons]
    by_cases hc : c = '\r'
    · rw [if_pos hc, hc]
      exact .blank (by decide) (by decide) ih
    · rw [if_neg hc]
      exact .cons c ih

/-- A text with no carriage return keeps its line ends. -/
theorem unixLines_eq_self (h : '\r' ∉ t) : unixLines t = t := by
  unfold unixLines
  fun_induction replaceCrLf t with
  | case1 => rfl
  | case2 rest ih => exact absurd List.mem_cons_self h
  | case3 c rest hnot ih =>
    rw [List.mem_cons, not_or] at h
    rw [List.map_cons, ih h.2, if_neg (Ne.symm h.1)]

/-- The steps of `_normalize_text` before the strip change gaps only. -/
theorem respaced_steps (t : List Char) :
    Respaced isSpace t (unixLines t) ∧
      Respaced isSpace (unixLines t) (rstripLines isSpace (unixLines t)) ∧
      Respaced isSpace (rstripLines isSpace (unixLines t))
        (squeeze '\n' 2 (rstripLines isSpace (unixLines t))) :=
  ⟨respaced_unixLines t, respaced_rstripLines isSpace_of_isLineBreak not_mem_unixLines,
    respaced_squeeze (by decide) (by decide) _⟩

/-- **The words of a text** are those of its normal form. -/
theorem words_wholeNormalText (t : List Char) :
    words isSpace (wholeNormalText t) = words isSpace (t.filter (· ≠ '\x00')) := by
  obtain ⟨h₁, h₂, h₃⟩ := respaced_steps (t.filter (· ≠ '\x00'))
  rw [wholeNormalText, words_stripOf, h₁.words_eq, h₂.words_eq, h₃.words_eq]

/-- **The document numbers of a text** are those of its normal form. -/
theorem numbers_wholeNormalText (t : List Char) :
    documentNumbersIn (String.ofList (wholeNormalText t)) =
      documentNumbersIn (String.ofList (t.filter (· ≠ '\x00'))) := by
  obtain ⟨h₁, h₂, h₃⟩ := respaced_steps (t.filter (· ≠ '\x00'))
  rw [numbers_respaced h₁, numbers_respaced h₂, numbers_respaced h₃, wholeNormalText]
  generalize squeeze '\n' 2 (rstripLines isSpace (unixLines (t.filter (· ≠ '\x00')))) = u
  obtain ⟨s, hs, hdrop⟩ := exists_append_dropWhile (p := isSpace) u
  obtain ⟨s', hs', hrdrop⟩ := exists_rdropWhile_append (p := isSpace) (u.dropWhile isSpace)
  calc documentNumbersIn (String.ofList (stripOf isSpace u))
      = documentNumbersIn (String.ofList (stripOf isSpace u ++ s')) :=
        (numbers_respaced (.append_tail _ hs')).symm
    _ = documentNumbersIn (String.ofList (u.dropWhile isSpace)) := by rw [stripOf, ← hrdrop]
    _ = documentNumbersIn (String.ofList (s ++ u.dropWhile isSpace)) :=
        (numbers_blanks_append hs).symm
    _ = documentNumbersIn (String.ofList u) := by rw [← hdrop]

theorem infix_stripOf (t : List Char) : stripOf isSpace t <:+: t :=
  (List.rdropWhile_prefix isSpace _).isInfix.trans (List.dropWhile_suffix isSpace).isInfix

/-- What a piece of a normal text keeps. -/
theorem NormalText.mono {u : List Char} (h : NormalText t) (hu : u <:+: t)
    (hhead : ∀ c, u.head? = some c → isSpace c = false) : NormalText u where
  noNul hmem := h.noNul (hu.subset hmem)
  breaks c hc := h.breaks c (hu.subset hc)
  lines := h.lines.infix hu
  runs hrun := h.runs (hrun.trans hu)
  head := hhead

/-- A newline may follow or precede a newline. -/
theorem newline_chain : ∀ c : Char, c = '\n' → '\n' ≠ '\n' → isSpace '\n' = false :=
  fun _ _ hnot => absurd rfl hnot

theorem normal_wholeNormalText (t : List Char) : NormalText (wholeNormalText t) := by
  have hmem : ∀ c ∈ squeeze '\n' 2 (rstripLines isSpace (unixLines (t.filter (· ≠ '\x00')))),
      c = '\n' ∨ (c ∈ t ∧ c ≠ '\x00') ∧ isLineBreak c = false := by
    intro c hc
    refine (mem_rstripLines not_mem_unixLines (mem_squeezeFrom hc)).elim .inl fun h => ?_
    refine (mem_unixLines h.1).imp_right fun h' => ⟨?_, h.2⟩
    simpa using h'.1
  refine ⟨fun h => ?_, fun c hc hbreak => ?_, ?_, fun h => ?_, (trimmed_stripOf _ _).head⟩
  · rcases hmem _ ((infix_stripOf _).subset h) with h | h
    · cases h
    · exact h.1.2 rfl
  · refine (hmem c ((infix_stripOf _).subset hc)).resolve_right fun h => ?_
    rw [hbreak] at h
    cases h.2
  · exact List.IsChain.infix (isChain_squeezeFrom newline_chain (by decide)
      (lineEndsTrimmed_rstripLines not_mem_unixLines) 0) (infix_stripOf _)
  · exact squeeze_run '\n' 2 _ (h.trans (infix_stripOf _))

theorem filter_nul_eq_self (h : '\x00' ∉ t) : t.filter (· ≠ '\x00') = t := by
  refine List.filter_eq_self.2 fun c hc => ?_
  simp only [ne_eq, decide_eq_true_eq]
  rintro rfl
  exact h hc

/-- **A normal text that ends with no blank** is left as it is. -/
theorem NormalText.whole_eq (h : NormalText t)
    (hlast : ∀ c, t.getLast? = some c → isSpace c = false) : wholeNormalText t = t := by
  have hcr : '\r' ∉ t := fun hmem => absurd (h.breaks _ hmem (by decide)) (by decide)
  rw [wholeNormalText, filter_nul_eq_self h.noNul, unixLines_eq_self hcr,
    rstripLines_eq_self isSpace_of_isLineBreak h.breaks h.lines hlast, squeeze_eq_self h.runs]
  exact Trimmed.stripOf_eq ⟨h.head, hlast⟩

/-- A text with something to see has a normal form. -/
theorem wholeNormalText_ne_nil (hnul : '\x00' ∉ t) (ht : ∃ c ∈ t, isSpace c = false) :
    wholeNormalText t ≠ [] := by
  intro hnil
  have hwords := words_wholeNormalText t
  rw [hnil, filter_nul_eq_self hnul, words_nil] at hwords
  obtain ⟨c, hc, hspace⟩ := ht
  rw [words_eq_nil hwords.symm c hc] at hspace
  cases hspace

/-- The cut of a normal form. -/
theorem normalizeText_spec (settings : SC04FileSettings) (t : List Char) :
    NormalText (normalizeText settings t) ∧
      (normalizeText settings t).length ≤ settings.maxExtractedChars ∧
      normalizeText settings t <+: wholeNormalText t := by
  have hnormal := normal_wholeNormalText t
  have hstart : normalizeText settings t <+: wholeNormalText t := List.take_prefix _ _
  refine ⟨hnormal.mono hstart.isInfix fun c hc => ?_, List.length_take_le _ _, hstart⟩
  obtain ⟨rest, hrest⟩ := hstart
  refine hnormal.head c ?_
  rw [← hrest, List.head?_append, hc]
  rfl

/-- **The normal form of a text.** What `_normalize_text` returns is in normal form, no longer than
the limit, and the start of the whole normal form. Where the limit cuts nothing, it has the words and
the document numbers of the text without its NUL characters, and a second pass leaves it as it is. -/
theorem normalizeText_faithful (settings : SC04FileSettings) (t : List Char) :
    NormalText (normalizeText settings t) ∧
    (normalizeText settings t).length ≤ settings.maxExtractedChars ∧
    normalizeText settings t <+: wholeNormalText t ∧
    ((wholeNormalText t).length ≤ settings.maxExtractedChars →
      words isSpace (normalizeText settings t) = words isSpace (t.filter (· ≠ '\x00')) ∧
      documentNumbersIn (String.ofList (normalizeText settings t)) =
        documentNumbersIn (String.ofList (t.filter (· ≠ '\x00'))) ∧
      normalizeText settings (normalizeText settings t) = normalizeText settings t) := by
  obtain ⟨hnormal, hlength, hstart⟩ := normalizeText_spec settings t
  refine ⟨hnormal, hlength, hstart, fun hcut => ?_⟩
  have hwhole : normalizeText settings t = wholeNormalText t := List.take_of_length_le hcut
  rw [hwhole]
  refine ⟨words_wholeNormalText t, numbers_wholeNormalText t, ?_⟩
  rw [normalizeText, (normal_wholeNormalText t).whole_eq (trimmed_stripOf _ _).last]
  exact hwhole

theorem normalizeText_ne_nil {settings : SC04FileSettings} (hmax : 0 < settings.maxExtractedChars)
    (h : wholeNormalText t ≠ []) : normalizeText settings t ≠ [] := by
  obtain ⟨c, u, hu⟩ := List.exists_cons_of_ne_nil h
  obtain ⟨n, hn⟩ : ∃ n, settings.maxExtractedChars = n + 1 :=
    ⟨settings.maxExtractedChars - 1, by omega⟩
  rw [normalizeText, hu, hn, List.take_succ_cons]
  exact List.cons_ne_nil _ _

end Normal

section Accepted

variable {lib : FileLibraries} {settings : SC04FileSettings} {content : Bytes}

/-- What is accepted as a text is one, without a NUL character. -/
theorem detectMediaType_txt (h : detectMediaType lib content = .ok .txt) :
    ∃ text, decodeUtf8 content = some text ∧ '\x00' ∉ text := by
  unfold detectMediaType at h
  dsimp only at h
  split at h
  · cases h
  split at h
  · cases h
  split at h
  · cases h
  split at h
  · cases h
  · next text hdecoded =>
    refine ⟨text, hdecoded, fun hnul => ?_⟩
    rw [if_pos (List.contains_iff_mem.2 hnul)] at h
    cases h

/-- An upload that `validate_document` accepts: its media type and its pages. -/
theorem validateDocument_ok {filename : String} {doc : ValidatedDocument}
    (h : validateDocument lib settings filename content = .ok doc) :
    doc.content = content ∧ ∃ extension, detectMediaType lib content = .ok extension ∧
      doc.mediaType = extension.mediaType ∧
      validateStructure lib settings extension content = .ok doc.pageCount := by
  unfold validateDocument at h
  split at h
  · cases h
  split at h
  · cases h
  split at h
  · cases h
  · next extension hextension =>
    split at h
    · cases h
    · next pageCount hpages =>
      obtain rfl := Except.ok.inj h
      exact ⟨rfl, extension, hextension, rfl, hpages⟩

/-- What an extraction returns is normal and not empty. -/
theorem extracted_ok {message : String} {method : ExtractionMethod} {pageCount : Option ℕ}
    {text : List Char} {r : ExtractionResult}
    (h : extracted settings message method pageCount text = .ok r) :
    (NormalText r.text ∧ r.text ≠ [] ∧ r.text.length ≤ settings.maxExtractedChars) ∧
      r.pageCount = pageCount := by
  unfold extracted at h
  split at h
  · cases h
  · next hempty =>
    obtain rfl := Except.ok.inj h
    obtain ⟨hnormal, hlength, -⟩ := normalizeText_spec settings text
    exact ⟨⟨hnormal, by simpa using hempty, hlength⟩, rfl⟩

theorem extracted_error {message : String} {method : ExtractionMethod} {pageCount : Option ℕ}
    {text : List Char} {e : FileError}
    (h : extracted settings message method pageCount text = .error e) :
    e = .extraction message := by
  unfold extracted at h
  split at h
  · exact (Except.error.inj h).symm
  · cases h

/-- The failures that are left for a document that `validate_document` accepts, by its media type. -/
def LeftFailure (mediaType : String) (e : FileError) : Prop :=
  (mediaType = "application/pdf" ∧
    (e = .extraction "PDF protegido por senha não pode ser processado." ∨
      e = .extraction
        "O PDF não contém texto pesquisável; converta a página em PNG ou JPEG para OCR." ∨
      ∃ l, e = pdfError l)) ∨
  ((mediaType = "image/png" ∨ mediaType = "image/jpeg") ∧
    (e = .extraction "O OCR não encontrou texto suficiente na imagem." ∨ ∃ l, e = ocrError l))

/-- What an extraction of a document with so many pages may give. -/
def Outcome (settings : SC04FileSettings) (mediaType : String) (pageCount : Option ℕ) :
    Except FileError ExtractionResult → Prop
  | .ok r => (NormalText r.text ∧ r.text ≠ [] ∧ r.text.length ≤ settings.maxExtractedChars) ∧
      r.pageCount = pageCount
  | .error e => LeftFailure mediaType e

theorem outcome_extracted {mediaType message : String} {method : ExtractionMethod}
    {pageCount : Option ℕ} {text : List Char}
    (h : LeftFailure mediaType (.extraction message)) :
    Outcome settings mediaType pageCount (extracted settings message method pageCount text) := by
  cases hresult : extracted settings message method pageCount text with
  | ok r => exact extracted_ok hresult
  | error e =>
    obtain rfl := extracted_error hresult
    exact h

/-- An accepted text is never refused. -/
theorem extractText_accepted (hmax : 0 < settings.maxExtractedChars) {pageCount : Option ℕ}
    (hdetect : detectMediaType lib content = .ok .txt)
    (hpages : validateStructure lib settings .txt content = .ok pageCount) :
    ∃ r, extractText settings content = .ok r ∧
      Outcome settings "text/plain" pageCount (.ok r) := by
  obtain ⟨text, hdecoded, hnul⟩ := detectMediaType_txt hdetect
  unfold validateStructure at hpages
  rw [hdecoded] at hpages
  dsimp only at hpages
  split at hpages
  · cases hpages
  next hstrip =>
  obtain rfl := Except.ok.inj hpages
  have hvisible : ∃ c ∈ text, isSpace c = false := by
    by_contra hblank
    have hall : ∀ c ∈ text, isSpace c = true := by
      intro c hc
      by_contra hspace
      exact hblank ⟨c, hc, eq_false_of_ne_true hspace⟩
    rw [stripOf, List.dropWhile_eq_nil_iff.2 hall] at hstrip
    exact hstrip rfl
  have hne := normalizeText_ne_nil hmax (wholeNormalText_ne_nil hnul hvisible)
  obtain ⟨r, hr⟩ : ∃ r, extractText settings content = .ok r := by
    rw [extractText, hdecoded]
    exact ⟨_, if_neg (by simpa using hne)⟩
  refine ⟨r, hr, ?_⟩
  rw [extractText, hdecoded] at hr
  exact extracted_ok hr

theorem outcome_extractPdf {pageCount : Option ℕ}
    (hpages : validatePdf lib settings content = .ok pageCount) :
    Outcome settings "application/pdf" pageCount (extractPdf lib settings content) := by
  unfold validatePdf at hpages
  unfold extractPdf
  cases hread : lib.readPdf content with
  | error e => exact .inl ⟨rfl, .inr (.inr ⟨e, rfl⟩)⟩
  | ok pdf =>
    rw [hread] at hpages
    dsimp only [bind, Except.bind] at hpages ⊢
    split
    · exact .inl ⟨rfl, .inl rfl⟩
    · cases hlist : pdf.pages with
      | error e => exact .inl ⟨rfl, .inr (.inr ⟨e, rfl⟩)⟩
      | ok pages =>
        rw [hlist] at hpages
        dsimp only at hpages ⊢
        split at hpages
        · cases hpages
        split at hpages
        · cases hpages
        next hcount =>
        obtain rfl := Except.ok.inj hpages
        rw [if_neg hcount]
        cases pages.mapM id with
        | error e => exact .inl ⟨rfl, .inr (.inr ⟨e, rfl⟩)⟩
        | ok parts => exact outcome_extracted (.inl ⟨rfl, .inr (.inl rfl)⟩)

theorem outcome_extractImage {mediaType : String}
    (hmedia : mediaType = "image/png" ∨ mediaType = "image/jpeg") {pageCount : Option ℕ}
    (hpages : validateImage lib settings content = .ok pageCount) :
    Outcome settings mediaType pageCount (extractImage lib settings content) := by
  unfold validateImage at hpages
  unfold extractImage
  cases hopen : lib.openImage content with
  | error e => exact .inr ⟨hmedia, .inr ⟨e, rfl⟩⟩
  | ok image =>
    rw [hopen] at hpages
    dsimp only at hpages ⊢
    split at hpages
    · cases hpages
    next hpixels =>
    split at hpages
    · cases hpages
    obtain rfl := Except.ok.inj hpages
    rw [if_neg hpixels]
    cases image.ocr with
    | error e => exact .inr ⟨hmedia, .inr ⟨e, rfl⟩⟩
    | ok text => exact outcome_extracted (.inr ⟨hmedia, .inl rfl⟩)

/-- **What an accepted upload gives.** The extraction of a document that `validate_document` accepts
with the same settings returns a text in normal form that is not empty and within the limit, and the
pages that the validation counted, or fails as its media type allows. So a TXT never fails, and no
document fails for its type, its pages or its pixels. -/
theorem extract_of_validated (hmax : 0 < settings.maxExtractedChars) {filename : String}
    {doc : ValidatedDocument} (h : validateDocument lib settings filename content = .ok doc) :
    Outcome settings doc.mediaType doc.pageCount
      (extract lib settings doc.content doc.mediaType) := by
  obtain ⟨rfl, extension, hdetect, hmedia, hpages⟩ := validateDocument_ok h
  rw [hmedia]
  cases extension with
  | txt =>
    obtain ⟨r, hr, houtcome⟩ := extractText_accepted hmax hdetect hpages
    have hextract : extract lib settings doc.content "text/plain" = .ok r := hr
    exact hextract ▸ houtcome
  | pdf => exact outcome_extractPdf hpages
  | png => exact outcome_extractImage (.inl rfl) hpages
  | jpg => exact outcome_extractImage (.inr rfl) hpages

/-- The readers of a file that is a text, with the digest of the two letters below. -/
def textLibraries : FileLibraries where
  isPrintable _ := true
  sha256 content :=
    if content = [78, 70] then "6a4b804705e725b9f4fd4adf6500180b54cc5ddefed460e48d1be724fed155d6" else ""
  readPdf _ := .error .pdfReadError
  openImage _ := .error .osError

/-- A text of two letters. -/
theorem extract_of_validated_text :
    Outcome {} "text/plain" none (extract textLibraries {} [78, 70] "text/plain") := by
  have h : validateDocument textLibraries {} "nota.txt" [78, 70] = .ok
      { filename := String.ofList
          ((sanitizeFilename (Str.of "nota.txt") MediaExtension.txt.str).map Char.ofNat)
        mediaType := "text/plain"
        extension := ".txt"
        content := [78, 70]
        sha256 := "6a4b804705e725b9f4fd4adf6500180b54cc5ddefed460e48d1be724fed155d6"
        pageCount := none } := by decide +kernel
  exact extract_of_validated (by decide) h

end Accepted

end SheepContabil
