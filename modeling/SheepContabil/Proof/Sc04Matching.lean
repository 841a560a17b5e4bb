import SheepContabil.Proof.Sc04Extraction

/-!
# SC-04: the exact match of an extracted text

`_exact_client_match` reads the text that the extraction has normalised. It looks for numbers and
for names, and the normalisation changes neither.

* `foldedWords_eq`: the plain words of a text are those of its words.
* `extracted_match`: **the match of an extracted text** is the match of the text itself, and for a
  TXT that of its content.
-/

namespace SheepContabil

open Py

/-- What the match relies on in the Unicode data: a blank is folded to itself, and the decomposition
of a text is taken apart at a blank, which becomes characters outside the names. -/
structure UnicodeData.KeepsBlanks (unicode : UnicodeData) : Prop where
  casefold : ∀ b, isSpace b = true → unicode.casefold b = [b]
  nil : unicode.nfkd [] = []
  split : ∀ (s : List Char) (b : Char) (t : List Char), isSpace b = true →
    unicode.nfkd (s ++ b :: t) = unicode.nfkd s ++ (unicode.nfkd [b] ++ unicode.nfkd t)
  base : ∀ b, isSpace b = true → ∃ c ∈ unicode.nfkd [b], unicode.combining c = false
  plain : ∀ b, isSpace b = true → ∀ c ∈ unicode.nfkd [b], isPlainAlnum c = false

section Names

variable {unicode : UnicodeData} {s t w : List Char}

/-- The plain words of a text: those that `_normalize_match_text` joins. -/
def foldedWords (unicode : UnicodeData) (t : List Char) : List (List Char) :=
  plainWords ((unicode.nfkd (t.flatMap unicode.casefold)).filter fun c => !unicode.combining c)

theorem plainWords_eq_words (t : List Char) : plainWords t = words (fun c => !isPlainAlnum c) t := by
  refine List.filter_congr fun w _ => ?_
  cases w with
  | nil => rfl
  | cons => rfl

theorem foldedWords_nil (hu : unicode.KeepsBlanks) : foldedWords unicode [] = [] := by
  rw [foldedWords, List.flatMap_nil, hu.nil]
  rfl

/-- A blank separates plain words. -/
theorem foldedWords_blank (hu : unicode.KeepsBlanks) {b : Char} (hb : isSpace b = true) :
    foldedWords unicode (s ++ b :: t) = foldedWords unicode s ++ foldedWords unicode t := by
  obtain ⟨c, hc, hbase⟩ := hu.base b hb
  have hgap : ((unicode.nfkd [b]).filter fun c => !unicode.combining c) ≠ [] := by
    refine List.ne_nil_of_mem (List.mem_filter.2 ⟨hc, ?_⟩)
    rw [hbase, Bool.not_false]
  have hplain : ∀ c ∈ (unicode.nfkd [b]).filter fun c => !unicode.combining c,
      (!isPlainAlnum c) = true := by
    intro c hc
    rw [hu.plain b hb c (List.mem_filter.1 hc).1, Bool.not_false]
  rw [foldedWords, List.flatMap_append, List.flatMap_cons, hu.casefold b hb, List.singleton_append,
    hu.split _ b _ hb, List.filter_append, List.filter_append, plainWords_eq_words,
    words_append_gap hgap hplain]
  rw [foldedWords, foldedWords, plainWords_eq_words, plainWords_eq_words]

/-- The plain words of a text without a blank. -/
theorem foldedWords_word (hu : unicode.KeepsBlanks) (hw : ∀ c ∈ w, isSpace c = false) :
    foldedWords unicode w = (words isSpace w).flatMap (foldedWords unicode) := by
  rw [words, List.splitOnP_eq_singleton hw]
  cases w with
  | nil => exact foldedWords_nil hu
  | cons c w =>
    rw [List.filter_cons_of_pos rfl, List.filter_nil, List.flatMap_cons, List.flatMap_nil,
      List.append_nil]

/-- The plain words of a text after a part without a blank. -/
theorem foldedWords_append (hu : unicode.KeepsBlanks) (hw : ∀ c ∈ w, isSpace c = false) :
    foldedWords unicode (w ++ t) = (words isSpace (w ++ t)).flatMap (foldedWords unicode) := by
  induction t generalizing w with
  | nil =>
    rw [List.append_nil]
    exact foldedWords_word hu hw
  | cons c t ih =>
    cases hc : isSpace c with
    | true =>
      have hrest := ih (w := []) fun c hc => (by cases hc)
      rw [List.nil_append] at hrest
      rw [foldedWords_blank hu hc, words_append_cons hc, List.flatMap_append, hrest,
        foldedWords_word hu hw]
    | false =>
      have hnext := ih (w := w ++ [c]) fun d hd => by
        rcases List.mem_append.1 hd with hd | hd
        · exact hw d hd
        · rw [List.mem_singleton.1 hd]
          exact hc
      rwa [List.append_assoc, List.singleton_append] at hnext

/-- **The plain words of a text** are those of its words. -/
theorem foldedWords_eq (hu : unicode.KeepsBlanks) (t : List Char) :
    foldedWords unicode t = (words isSpace t).flatMap (foldedWords unicode) :=
  foldedWords_append hu (w := []) fun c hc => (by cases hc)

/-- Texts with the same words name the same clients. -/
theorem isNamed_words (hu : unicode.KeepsBlanks) (h : words isSpace s = words isSpace t) :
    isNamed unicode (String.ofList s) = isNamed unicode (String.ofList t) := by
  have hnormal : normalizeMatchText unicode (String.ofList s) =
      normalizeMatchText unicode (String.ofList t) := by
    have hfolded : foldedWords unicode s = foldedWords unicode t := by
      rw [foldedWords_eq hu s, foldedWords_eq hu t, h]
    rw [normalizeMatchText, normalizeMatchText, String.toList_ofList, String.toList_ofList]
    exact congrArg (List.intercalate [' ']) hfolded
  funext client
  unfold isNamed namesClient
  rw [hnormal]

end Names

section Match

variable {unicode : UnicodeData} {settings : SC04FileSettings}

/-- The exact match of a text and of its normal form. -/
theorem exactClientMatch_whole (hu : unicode.KeepsBlanks) (t : List Char)
    (clients : List FiscalClient) :
    exactClientMatch unicode (String.ofList (wholeNormalText t)) clients =
      exactClientMatch unicode (String.ofList (t.filter (· ≠ '\x00'))) clients := by
  unfold exactClientMatch
  rw [numbers_wholeNormalText t, isNamed_words hu (words_wholeNormalText t)]

/-- **The match of an extracted text.** Where the limit cuts nothing, the exact match finds in what
`_normalize_text` returns just what it finds in the text without its NUL characters, among any
clients. So it finds in the extraction of a TXT that `validate_document` accepts just what it finds
in the content of the file. -/
theorem extracted_match (hu : unicode.KeepsBlanks) (hmax : 0 < settings.maxExtractedChars)
    (clients : List FiscalClient) :
    (∀ t, (wholeNormalText t).length ≤ settings.maxExtractedChars →
      exactClientMatch unicode (String.ofList (normalizeText settings t)) clients =
        exactClientMatch unicode (String.ofList (t.filter (· ≠ '\x00'))) clients) ∧
    ∀ (lib : FileLibraries) (filename : String) (content : Bytes) (doc : ValidatedDocument),
      validateDocument lib settings filename content = .ok doc → doc.mediaType = "text/plain" →
      ∃ text r, decodeUtf8 content = some text ∧
        extract lib settings doc.content doc.mediaType = .ok r ∧
        ((wholeNormalText text).length ≤ settings.maxExtractedChars →
          exactClientMatch unicode (String.ofList r.text) clients =
            exactClientMatch unicode (String.ofList text) clients) := by
  have hnormal : ∀ t, (wholeNormalText t).length ≤ settings.maxExtractedChars →
      exactClientMatch unicode (String.ofList (normalizeText settings t)) clients =
        exactClientMatch unicode (String.ofList (t.filter (· ≠ '\x00'))) clients := by
    intro t hcut
    rw [normalizeText, List.take_of_length_le hcut]
    exact exactClientMatch_whole hu t clients
  refine ⟨hnormal, fun lib filename content doc h hmedia => ?_⟩
  obtain ⟨rfl, extension, hdetect, hextension, hpages⟩ := validateDocument_ok h
  obtain rfl : extension = .txt := by
    rw [hmedia] at hextension
    cases extension with
    | txt => rfl
    | pdf | png | jpg => exact absurd hextension (by decide)
  obtain ⟨text, hdecoded, hnul⟩ := detectMediaType_txt hdetect
  obtain ⟨r, hr, -⟩ := extractText_accepted hmax hdetect hpages
  refine ⟨text, r, hdecoded, ?_, fun hcut => ?_⟩
  · rw [hmedia]
    exact hr
  · have htext : r.text = normalizeText settings text := by
      rw [extractText, hdecoded] at hr
      unfold extracted at hr
      dsimp only at hr
      split at hr
      · cases hr
      · exact (congrArg ExtractionResult.text (Except.ok.inj hr)).symm
    rw [htext, hnormal text hcut, filter_nul_eq_self hnul]

/-- A blank is neither a letter nor a digit of ASCII. -/
theorem blank_code {b : Char} (hb : isSpace b = true) : b.toNat < 48 ∨ 122 < b.toNat := by
  simp only [isSpace, Str.isSpace, Bool.or_eq_true, decide_eq_true_eq, beq_iff_eq] at hb
  omega

/-- The Unicode data of texts in ASCII. -/
def asciiData : UnicodeData where
  casefold c := if 65 ≤ c.toNat ∧ c.toNat ≤ 90 then [Char.ofNat (c.toNat + 32)] else [c]
  nfkd t := t
  combining _ := false

theorem asciiData_keepsBlanks : asciiData.KeepsBlanks where
  casefold b hb := by
    have hcode := blank_code hb
    exact if_neg (by omega)
  nil := rfl
  split s b t _ := rfl
  base b _ := ⟨b, List.mem_singleton_self b, rfl⟩
  plain b hb c hc := by
    have hcode := blank_code hb
    rw [List.mem_singleton.1 hc]
    by_contra hplain
    simp only [isPlainAlnum, Bool.not_eq_false, Bool.or_eq_true, Bool.and_eq_true,
      decide_eq_true_eq, Char.le_def, UInt32.le_iff_toNat_le] at hplain
    have ha : ('a' : Char).val.toNat = 97 := rfl
    have hz : ('z' : Char).val.toNat = 122 := rfl
    have hzero : ('0' : Char).val.toNat = 48 := rfl
    have hnine : ('9' : Char).val.toNat = 57 := rfl
    have hb : b.val.toNat = b.toNat := rfl
    omega

/-- A line with the name of a client. -/
theorem extracted_match_alfa :
    exactClientMatch asciiData
      (String.ofList (normalizeText {} "\r\n Cliente:  Alfa Ltda \r\n".toList))
      [{ code := "A1", name := "Alfa Ltda", documentNumber := "11222333000181" }] =
    exactClientMatch asciiData
      (String.ofList ("\r\n Cliente:  Alfa Ltda \r\n".toList.filter (· ≠ '\x00')))
      [{ code := "A1", name := "Alfa Ltda", documentNumber := "11222333000181" }] :=
  (extracted_match asciiData_keepsBlanks
    (show 0 < ({} : SC04FileSettings).maxExtractedChars by decide)
    [{ code := "A1", name := "Alfa Ltda", documentNumber := "11222333000181" }]).1
    "\r\n Cliente:  Alfa Ltda \r\n".toList (by decide +kernel)

end Match

end SheepContabil
