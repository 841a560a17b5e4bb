import SheepContabil.Spec.Sc04Filename

/-!
# The names that `sanitize_filename` returns

The last two stages decide what a stem may be: the substitution leaves characters of a name only,
and the strip after it removes what the cut and the substitution exposed. A safe stem passes every
stage unchanged, so the safe names are the fixed points.

* `safeStem_cleanStem`: what the stages make of any text.
* `sanitizeFilename_eq_self_iff`: the safe names are the fixed points.
* `sanitizeFilename_safe`: the result, and a second pass over it.
-/

namespace SheepContabil

open Py Filename

section Characters

variable {c : ℕ}

theorem isEdge_of_isBlankOrDot (h : isBlankOrDot c = true) : isEdge c = true := by
  simp only [isEdge, Bool.or_eq_true]
  exact .inl (by simpa [isBlankOrDot] using h)

/-- A character of a name is none that the first two stages look for. -/
theorem isNameChar_safe (h : isNameChar c = true) :
    c ≠ PurePath.slash ∧ c ≠ backslash ∧ Str.isControl c = false ∧ isControlOrDelete c = false := by
  simp only [isNameChar, PurePath.dot, blank, hyphen, Bool.or_eq_true, decide_eq_true_eq,
    beq_iff_eq] at h
  simp only [PurePath.slash, backslash, Str.isControl, isControlOrDelete, ne_eq,
    Bool.or_eq_false_iff, decide_eq_false_iff_not, beq_eq_false_iff_ne]
  omega

/-- Of the characters of a name only the blank is a space. -/
theorem isEdge_of_isSpace (hname : isNameChar c = true) (h : Str.isSpace c = true) :
    isEdge c = true := by
  simp only [isNameChar, PurePath.dot, blank, hyphen, Bool.or_eq_true, decide_eq_true_eq,
    beq_iff_eq] at hname
  simp only [Str.isSpace, Bool.or_eq_true, decide_eq_true_eq, beq_iff_eq] at h
  simp only [isEdge, PurePath.dot, blank, hyphen, Bool.or_eq_true, beq_iff_eq]
  omega

theorem isNameChar_hyphen : isNameChar hyphen = true := by decide

end Characters

section Stem

theorem safeStem_documento : SafeStem (Str.of "documento") :=
  ⟨by decide, by decide, ⟨by decide, by decide⟩, by decide⟩

theorem orDocumento_of_ne_nil {t : Str} (h : t ≠ []) : orDocumento t = t := by
  rw [orDocumento, if_neg (by simpa using h)]

theorem length_orDocumento_le {t : Str} (h : t.length ≤ 180) : (orDocumento t).length ≤ 180 := by
  unfold orDocumento
  split
  · exact safeStem_documento.short
  · exact h

/-- **The cut.** At most 180 characters of the leaf's stem are left. -/
theorem length_cutStem_le (filename : Str) : (cutStem filename).length ≤ 180 := by
  refine length_orDocumento_le (le_trans (stripOf_sublist _ _).length_le ?_)
  rw [List.length_take]
  exact min_le_left _ _

/-- **The last stages.** They leave a safe stem of any short text, or nothing. -/
theorem safeStem_cleanStem {t : Str} (hlen : t.length ≤ 180) (hne : cleanStem t ≠ []) :
    SafeStem (cleanStem t) where
  nonempty := hne
  short := ((stripOf_sublist _ _).length_le.trans (length_subRuns_le t)).trans hlen
  trimmed := trimmed_stripOf _ _
  chars c hc := by
    rcases mem_subRuns ((stripOf_sublist _ _).subset hc) with rfl | ⟨-, hname⟩
    · exact isNameChar_hyphen
    · simpa using hname

theorem safeStem_orDocumento {t : Str} (hlen : t.length ≤ 180) :
    SafeStem (orDocumento (cleanStem t)) := by
  by_cases hne : cleanStem t = []
  · rw [hne]
    exact safeStem_documento
  · rw [orDocumento_of_ne_nil hne]
    exact safeStem_cleanStem hlen hne

end Stem

section Extension

/-- An extension is a dot and characters of a name, and the last of them is no space. -/
structure IsExtension (extension suffix : Str) : Prop where
  eq : extension = PurePath.dot :: suffix
  noDot : PurePath.dot ∉ suffix
  nonempty : suffix ≠ []
  chars : ∀ c ∈ extension, isNameChar c = true
  last : ∀ c, suffix.getLast? = some c → Str.isSpace c = false

theorem MediaExtension.isExtension (extension : MediaExtension) :
    ∃ suffix, IsExtension extension.str suffix := by
  cases extension with
  | pdf => exact ⟨Str.of "pdf", rfl, by decide, by decide, by decide, by decide⟩
  | png => exact ⟨Str.of "png", rfl, by decide, by decide, by decide, by decide⟩
  | jpg => exact ⟨Str.of "jpg", rfl, by decide, by decide, by decide, by decide⟩
  | txt => exact ⟨Str.of "txt", rfl, by decide, by decide, by decide, by decide⟩

/-- The extensions are those of the allowed media types. -/
theorem MediaExtension.of_allowed (extension : MediaExtension) :
    ∃ mediaType, allowedMediaTypes.contains mediaType = true ∧
      extensionForMediaType mediaType = .ok extension := by
  cases extension with
  | pdf => exact ⟨"application/pdf", by decide, by decide⟩
  | png => exact ⟨"image/png", by decide, by decide⟩
  | jpg => exact ⟨"image/jpeg", by decide, by decide⟩
  | txt => exact ⟨"text/plain", by decide, by decide⟩

end Extension

section FixedPoints

variable {stem extension suffix : Str}

theorem isNameChar_of_safe (hstem : SafeStem stem) (hext : IsExtension extension suffix) :
    ∀ c ∈ stem ++ extension, isNameChar c = true := by
  intro c hc
  rcases List.mem_append.1 hc with h | h
  · exact hstem.chars c h
  · exact hext.chars c h

/-- A text of name characters has nothing to replace. -/
theorem normalizedPath_eq_self {t : Str} (h : ∀ c ∈ t, isNameChar c = true) :
    normalizedPath t = t := by
  have hmap : (t.map fun c => if c = backslash then PurePath.slash else c) = t := by
    conv_rhs => rw [← List.map_id t]
    refine List.map_congr_left fun c hc => ?_
    rw [if_neg (isNameChar_safe (h c hc)).2.1, id]
  rw [normalizedPath, hmap]
  exact subRuns_eq_self fun c hc => (isNameChar_safe (h c hc)).2.2.2

theorem name_safe (hstem : SafeStem stem) (hext : IsExtension extension suffix) :
    PurePath.name (stem ++ extension) = stem ++ extension := by
  refine PurePath.name_eq_self ?_ ?_ ?_
  · intro h
    exact (isNameChar_safe (isNameChar_of_safe hstem hext _ h)).1 rfl
  · simp [hstem.nonempty]
  · intro h
    have hlen : (stem ++ extension).length = 1 := by rw [h, List.length_singleton]
    have hpos := List.length_pos_of_ne_nil hstem.nonempty
    rw [List.length_append, hext.eq, List.length_cons] at hlen
    omega

theorem leaf_safe (hstem : SafeStem stem) (hext : IsExtension extension suffix) :
    leaf (stem ++ extension) = stem ++ extension := by
  rw [leaf, normalizedPath_eq_self (isNameChar_of_safe hstem hext), name_safe hstem hext]
  refine Trimmed.stripOf_eq ⟨?_, ?_⟩
  · -- the first character is the stem's, and no edge
    intro c hc
    rw [List.head?_append_of_ne_nil _ hstem.nonempty] at hc
    by_contra hspace
    have hedge := isEdge_of_isSpace (hstem.chars c (List.mem_of_head? hc)) (by simpa using hspace)
    rw [hstem.trimmed.head c hc] at hedge
    cases hedge
  · -- the last one is the extension's
    intro c hc
    rw [hext.eq, List.getLast?_append_of_ne_nil _ (by simp),
      List.getLast?_cons_of_ne_nil hext.nonempty] at hc
    exact hext.last c hc

theorem stem_safe (hstem : SafeStem stem) (hext : IsExtension extension suffix) :
    PurePath.stem (stem ++ extension) = stem := by
  have hname := name_safe hstem hext
  rw [hext.eq] at hname ⊢
  exact PurePath.stem_append_cons hname hext.noDot hstem.nonempty hext.nonempty

theorem cutStem_safe (hstem : SafeStem stem) (hext : IsExtension extension suffix) :
    cutStem (stem ++ extension) = stem := by
  have htrimmed := hstem.trimmed.mono fun c => isEdge_of_isBlankOrDot (c := c)
  rw [cutStem, leaf_safe hstem hext, stem_safe hstem hext, List.take_of_length_le hstem.short,
    htrimmed.stripOf_eq, orDocumento_of_ne_nil hstem.nonempty]

theorem cleanStem_safe (hstem : SafeStem stem) : cleanStem stem = stem := by
  rw [cleanStem, subRuns_eq_self fun c hc => by simp [hstem.chars c hc], hstem.trimmed.stripOf_eq]

/-- A safe name is left as it is. -/
theorem sanitizeFilename_of_safe (hstem : SafeStem stem) (hext : IsExtension extension suffix) :
    sanitizeFilename (stem ++ extension) extension = stem ++ extension := by
  rw [sanitizeFilename, cutStem_safe hstem hext, cleanStem_safe hstem,
    orDocumento_of_ne_nil hstem.nonempty]

end FixedPoints

section Names

variable (filename : Str) (extension : MediaExtension)

theorem safeName_sanitizeFilename : SafeName extension.str (sanitizeFilename filename extension.str) :=
  ⟨_, safeStem_orDocumento (length_cutStem_le filename), rfl⟩

variable {extension}

theorem sanitizeFilename_of_safeName {name : Str} (h : SafeName extension.str name) :
    sanitizeFilename name extension.str = name := by
  obtain ⟨stem, hstem, rfl⟩ := h
  obtain ⟨suffix, hext⟩ := extension.isExtension
  exact sanitizeFilename_of_safe hstem hext

/-- **The safe names are the fixed points.** -/
theorem sanitizeFilename_eq_self_iff {name : Str} :
    sanitizeFilename name extension.str = name ↔ SafeName extension.str name := by
  constructor
  · intro h
    rw [← h]
    exact safeName_sanitizeFilename name extension
  · exact sanitizeFilename_of_safeName

theorem SafeName.chars {name : Str} (h : SafeName extension.str name) :
    ∀ c ∈ name, isNameChar c = true := by
  obtain ⟨stem, hstem, rfl⟩ := h
  obtain ⟨suffix, hext⟩ := extension.isExtension
  exact isNameChar_of_safe hstem hext

theorem SafeStem.not_edge {stem : Str} (h : SafeStem stem) {c : ℕ}
    (hc : stem.head? = some c ∨ stem.getLast? = some c) :
    c ≠ blank ∧ c ≠ PurePath.dot ∧ c ≠ hyphen := by
  have hedge : isEdge c = false := hc.elim (h.trimmed.head c) (h.trimmed.last c)
  simpa [isEdge, and_assoc] using hedge

variable (extension)

/-- **What `sanitize_filename` returns, and what it makes of it again.** -/
theorem sanitizeFilename_safe :
    (∀ c ∈ sanitizeFilename filename extension.str,
      c ≠ PurePath.slash ∧ c ≠ backslash ∧ Str.isControl c = false) ∧
    (∃ stem, sanitizeFilename filename extension.str = stem ++ extension.str ∧
      PurePath.stem (sanitizeFilename filename extension.str) = stem ∧
      stem ≠ [] ∧ stem.length ≤ 180 ∧
      ∀ c, stem.head? = some c ∨ stem.getLast? = some c →
        c ≠ blank ∧ c ≠ PurePath.dot ∧ c ≠ hyphen) ∧
    sanitizeFilename (sanitizeFilename filename extension.str) extension.str =
      sanitizeFilename filename extension.str := by
  have hsafe := safeName_sanitizeFilename filename extension
  refine ⟨?_, ?_, sanitizeFilename_of_safeName hsafe⟩
  · intro c hc
    obtain ⟨hslash, hback, hcontrol, -⟩ := isNameChar_safe (hsafe.chars c hc)
    exact ⟨hslash, hback, hcontrol⟩
  · obtain ⟨stem, hstem, hname⟩ := hsafe
    obtain ⟨suffix, hext⟩ := extension.isExtension
    refine ⟨stem, hname, ?_, hstem.nonempty, hstem.short, fun c hc => hstem.not_edge hc⟩
    rw [hname]
    exact stem_safe hstem hext

example : sanitizeFilename (Str.of "../../cliente\x00\r\nmalicioso.exe") MediaExtension.txt.str =
    Str.of "malicioso.txt" := by
  decide

end Names

end SheepContabil
