import SheepContabil.Proof.Sc20Phone
import SheepContabil.Py.Lines
import SheepContabil.Spec.Masks

/-!
# The masks and the server

A mask keeps the digits of a field and changes what stands between them, so the server cleans a
masked field to what it cleans the digits to.

* `typedDocument_clean`: **a document typed at the end of the field.** The field is the mask of all
  the keys, and a document that the server takes is shown again as it stood in the field.
* `maskedPhone_clean`: **an accepted phone under the mask.** The server stores the same phone, but
  for a foreign number whose local digits begin with the code of the country.
-/

namespace SheepContabil

open Py (onlyDecimals isDecimal decimalZeros not_isSpace_of_isDecimal)
open SC06 (Text strip)
open AppJs (isDigit onlyDigits slice formatDocument)

section Digits

variable {value d : Text} {c : Char} {a b : ℕ}

theorem isDecimal_of_isDigit (h : isDigit c = true) : isDecimal c = true := by
  simp only [isDigit, Bool.and_eq_true, decide_eq_true_eq, Char.le_def] at h
  simp only [isDecimal, List.any_eq_true, Bool.and_eq_true, decide_eq_true_eq]
  refine ⟨0x30, by decide, ?_⟩
  have hlow : (48 : ℕ) ≤ c.toNat := h.1
  have hhigh : c.toNat ≤ (57 : ℕ) := h.2
  omega

@[simp] theorem onlyDigits_append (s t : Text) :
    onlyDigits (s ++ t) = onlyDigits s ++ onlyDigits t :=
  List.filter_append ..

theorem onlyDigits_cons_sep (t : Text) (hc : isDigit c = false) :
    onlyDigits (c :: t) = onlyDigits t :=
  List.filter_cons_of_neg (by rw [hc]; exact Bool.false_ne_true)

theorem onlyDigits_of_all (h : ∀ c ∈ d, isDigit c = true) : onlyDigits d = d :=
  List.filter_eq_self.2 h

theorem isDigit_of_mem_onlyDigits : ∀ c ∈ onlyDigits value, isDigit c = true :=
  fun _ hc => (List.mem_filter.1 hc).2

theorem onlyDigits_drop (h : ∀ c ∈ d, isDigit c = true) : onlyDigits (d.drop a) = d.drop a :=
  onlyDigits_of_all fun c hc => h c (List.mem_of_mem_drop hc)

theorem onlyDigits_slice (h : ∀ c ∈ d, isDigit c = true) :
    onlyDigits (slice a b d) = slice a b d :=
  onlyDigits_of_all fun c hc => h c (List.mem_of_mem_drop (List.mem_of_mem_take hc))

/-- A slice and what follows it. -/
theorem slice_append_drop (h : a ≤ b) : slice a b d ++ d.drop b = d.drop a := by
  have hdrop : d.drop b = (d.drop a).drop (b - a) := by rw [List.drop_drop, Nat.add_sub_cancel' h]
  rw [slice, hdrop, List.take_append_drop]

theorem slice_zero_append_drop : slice 0 b d ++ d.drop b = d := slice_append_drop (Nat.zero_le b)

/-- A digit of ASCII, or no decimal digit. -/
def asciiOnly (c : Char) : Bool := isDigit c || !isDecimal c

/-- The decimal digits of the text are those of ASCII. -/
def Ascii (value : Text) : Prop := value.all asciiOnly = true

theorem ascii_of_digits (h : ∀ c ∈ d, isDigit c = true) : Ascii d :=
  List.all_eq_true.2 fun c hc => by rw [asciiOnly, h c hc, Bool.true_or]

theorem Ascii.all (h : Ascii value) : value.all asciiOnly = true := h

theorem Ascii.drop (h : Ascii value) : Ascii (value.drop a) :=
  List.all_eq_true.2 fun c hc => List.all_eq_true.1 h c (List.mem_of_mem_drop hc)

theorem Ascii.slice (h : Ascii value) : Ascii (slice a b value) :=
  List.all_eq_true.2 fun c hc =>
    List.all_eq_true.1 h c (List.mem_of_mem_drop (List.mem_of_mem_take hc))

/-- Both readings of a digit agree there. -/
theorem Ascii.onlyDecimals_eq (h : Ascii value) : onlyDecimals value = onlyDigits value := by
  refine List.filter_congr fun c hc => ?_
  have hc := List.all_eq_true.1 h c hc
  cases hdigit : isDigit c with
  | true => exact isDecimal_of_isDigit hdigit
  | false => simpa [asciiOnly, hdigit] using hc

end Digits

section Document

variable {value d : Text}

/-- The separators of the masks are no digits. -/
theorem separators_not_digits : isDigit '.' = false ∧ isDigit '-' = false ∧ isDigit '/' = false ∧
    isDigit '(' = false ∧ isDigit ')' = false ∧ isDigit ' ' = false := by decide

/-- **The mask of a document keeps its first fourteen digits.** -/
theorem onlyDigits_formatDocument (value : Text) :
    onlyDigits (formatDocument value) = (onlyDigits value).take 14 := by
  obtain ⟨hdot, hhyphen, hslash, -⟩ := separators_not_digits
  have hdigits : ∀ c ∈ (onlyDigits value).take 14, isDigit c = true := fun c hc =>
    isDigit_of_mem_onlyDigits c (List.mem_of_mem_take hc)
  unfold formatDocument
  dsimp only
  split
  · next h => rw [List.isEmpty_iff.1 h]; rfl
  generalize (onlyDigits value).take 14 = d at hdigits
  split_ifs
  · exact onlyDigits_of_all hdigits
  all_goals
    simp only [onlyDigits_append, onlyDigits_cons_sep _ hdot, onlyDigits_cons_sep _ hhyphen,
      onlyDigits_cons_sep _ hslash, onlyDigits_slice hdigits, onlyDigits_drop hdigits,
      slice_append_drop (by decide : 3 ≤ 6), slice_append_drop (by decide : 6 ≤ 9),
      slice_append_drop (by decide : 2 ≤ 5), slice_append_drop (by decide : 5 ≤ 8),
      slice_append_drop (by decide : 8 ≤ 12), slice_zero_append_drop]

/-- The mask reads the first fourteen digits only. -/
theorem formatDocument_congr {value' : Text}
    (h : (onlyDigits value).take 14 = (onlyDigits value').take 14) :
    formatDocument value = formatDocument value' := by
  have hempty : ∀ v : Text, v.isEmpty = true → ((onlyDigits v).take 14).length ≤ 3 := by
    intro v hv
    rw [List.isEmpty_iff.1 hv]
    decide
  have hnil : ∀ v : Text, v.isEmpty = true → (onlyDigits v).take 14 = [] := by
    intro v hv
    rw [List.isEmpty_iff.1 hv]
    rfl
  unfold formatDocument
  dsimp only
  by_cases hv : value.isEmpty = true
  · have hd := hnil value hv
    rw [if_pos hv, ← h, hd]
    simp
  · rw [if_neg hv, h]
    by_cases hv' : value'.isEmpty = true
    · rw [if_pos hv', hnil value' hv']
      simp
    · rw [if_neg hv']

/-- **Keys at the end of the field.** What is typed so far is masked as a whole. -/
theorem typedDocument_eq (keys : Text) : typedDocument keys = formatDocument keys := by
  unfold typedDocument
  induction keys using List.reverseRecOn with
  | nil => rfl
  | append_singleton keys key ih =>
    rw [List.foldl_append, List.foldl_cons, List.foldl_nil, ih]
    refine formatDocument_congr ?_
    rw [onlyDigits_append, onlyDigits_formatDocument, onlyDigits_append]
    -- the digits past the fourteenth are cut either way
    rw [List.take_append, List.take_append, List.take_take, List.length_take, Nat.min_self]
    by_cases hlong : (onlyDigits keys).length ≤ 14
    · rw [Nat.min_eq_right hlong]
    · rw [Nat.min_eq_left (by omega), Nat.sub_self,
        Nat.sub_eq_zero_of_le (by omega : 14 ≤ (onlyDigits keys).length)]

/-- The decimal digits of a masked document are those of ASCII. -/
theorem ascii_formatDocument (value : Text) : Ascii (formatDocument value) := by
  have hseps : asciiOnly '.' = true ∧ asciiOnly '-' = true ∧ asciiOnly '/' = true := by
    decide +kernel
  obtain ⟨hdot, hhyphen, hslash⟩ := hseps
  have hdigits : Ascii ((onlyDigits value).take 14) :=
    ascii_of_digits fun c hc => isDigit_of_mem_onlyDigits c (List.mem_of_mem_take hc)
  unfold formatDocument
  dsimp only
  split
  · rfl
  generalize (onlyDigits value).take 14 = d at hdigits
  split_ifs
  · exact hdigits
  all_goals
    simp only [Ascii, List.all_append, List.all_cons, hdot, hhyphen, hslash,
      hdigits.slice.all, hdigits.drop.all, Bool.and_self]

theorem onlyDecimals_formatDocument (value : Text) :
    onlyDecimals (formatDocument value) = (onlyDigits value).take 14 :=
  (ascii_formatDocument value).onlyDecimals_eq.trans (onlyDigits_formatDocument value)

/-- The server shows a document as the mask does. -/
theorem formatCpfCnpj_eq {r : Text} (hdigits : ∀ c ∈ r, isDigit c = true)
    (hlength : r.length = 11 ∨ r.length = 14) : formatCpfCnpj r = formatDocument r := by
  have hdecimals : onlyDecimals r = r :=
    onlyDecimals_of_all fun c hc => isDecimal_of_isDigit (hdigits c hc)
  have hne : r.isEmpty = false := by
    cases r with
    | nil => simp at hlength
    | cons c r => rfl
  have htake : r.take 14 = r := List.take_of_length_le (by omega)
  have hslice : ∀ a b, (r.take b).drop a = slice a b r := fun a b => List.drop_take
  have hzero : ∀ b, r.take b = slice 0 b r := fun b => rfl
  unfold formatCpfCnpj formatDocument
  simp only [hdecimals, onlyDigits_of_all hdigits, hne, htake, hslice, Bool.false_eq_true, if_false]
  rcases hlength with hlength | hlength
  · simp [hlength, hzero]
  · simp [hlength, hzero]

/-- **A document typed at the end of the field.** The field is the mask of all the keys. The server
reads the first fourteen ASCII digits of the keys from it, takes them if there are eleven or
fourteen, and then shows the document as it stood in the field, which the mask leaves as it is. -/
theorem typedDocument_clean (keys : Text) :
    typedDocument keys = formatDocument keys ∧
    cleanClientDocument (typedDocument keys) =
      (if ((onlyDigits keys).take 14).length = 11 ∨ ((onlyDigits keys).take 14).length = 14 then
        .ok ((onlyDigits keys).take 14)
      else .error "Informe um CPF ou CNPJ sintético com 11 ou 14 dígitos.") ∧
    ∀ r, cleanClientDocument (typedDocument keys) = .ok r →
      formatCpfCnpj r = typedDocument keys ∧ formatDocument (formatCpfCnpj r) = formatCpfCnpj r := by
  have hclean : cleanClientDocument (typedDocument keys) =
      (if ((onlyDigits keys).take 14).length = 11 ∨ ((onlyDigits keys).take 14).length = 14 then
        .ok ((onlyDigits keys).take 14)
      else .error "Informe um CPF ou CNPJ sintético com 11 ou 14 dígitos.") := by
    rw [typedDocument_eq, cleanClientDocument, onlyDecimals_formatDocument]
  refine ⟨typedDocument_eq keys, hclean, fun r hr => ?_⟩
  rw [hclean] at hr
  split at hr
  · next hlength =>
    obtain rfl := Except.ok.inj hr
    have hdigits : ∀ c ∈ (onlyDigits keys).take 14, isDigit c = true := fun c hc =>
      isDigit_of_mem_onlyDigits c (List.mem_of_mem_take hc)
    have hsame : (onlyDigits ((onlyDigits keys).take 14)).take 14 = (onlyDigits keys).take 14 := by
      rw [onlyDigits_of_all hdigits, List.take_take, Nat.min_self]
    have hshown : formatCpfCnpj ((onlyDigits keys).take 14) = formatDocument keys :=
      (formatCpfCnpj_eq hdigits hlength).trans (formatDocument_congr hsame)
    rw [hshown, typedDocument_eq]
    refine ⟨rfl, formatDocument_congr ?_⟩
    rw [onlyDigits_formatDocument, List.take_take, Nat.min_self]
  · cases hr

end Document

section Phone

variable {value digits number country r : Text}

/-- Blanks at the ends hold no digit. -/
theorem onlyDecimals_strip (value : Text) : onlyDecimals (strip value) = onlyDecimals value := by
  have hnone : ∀ s : Text, (∀ c ∈ s, Py.isSpace c = true) → onlyDecimals s = [] := by
    intro s hs
    refine List.filter_eq_nil_iff.2 fun c hc hdecimal => ?_
    have hspace := hs c hc
    rw [not_isSpace_of_isDecimal hdecimal] at hspace
    cases hspace
  obtain ⟨s, hs, hdrop⟩ := Py.exists_append_dropWhile (p := Py.isSpace) value
  obtain ⟨s', hs', hrdrop⟩ :=
    Py.exists_rdropWhile_append (p := Py.isSpace) (value.dropWhile Py.isSpace)
  calc onlyDecimals (strip value)
      = onlyDecimals (strip value ++ s') := by
        rw [onlyDecimals_append, hnone s' hs', List.append_nil]
    _ = onlyDecimals (value.dropWhile Py.isSpace) := by rw [strip, Py.stripOf, ← hrdrop]
    _ = onlyDecimals (s ++ value.dropWhile Py.isSpace) := by
        rw [onlyDecimals_append, hnone s hs, List.nil_append]
    _ = onlyDecimals value := by rw [← hdrop]

/-- The digits of a Brazilian number without the code of the country. -/
def withoutCode (digits : Text) : Text :=
  if (digits.length == 12 || digits.length == 13) && brazil.isPrefixOf digits then digits.drop 2
  else digits

theorem withoutCode_short (h : digits.length = 10 ∨ digits.length = 11) :
    withoutCode digits = digits := by
  unfold withoutCode
  exact if_neg (by rcases h with h | h <;> simp [h])

/-- The checks for Brazil read the digits without the code. -/
theorem cleanBrazilianPhone_congr {raw raw' digits' : Text}
    (hraw : (['+'].isPrefixOf raw && !('+' :: brazil).isPrefixOf raw) = false)
    (hraw' : (['+'].isPrefixOf raw' && !('+' :: brazil).isPrefixOf raw') = false)
    (h : withoutCode digits = withoutCode digits') :
    cleanBrazilianPhone raw digits = cleanBrazilianPhone raw' digits' := by
  unfold cleanBrazilianPhone
  unfold withoutCode at h
  dsimp only
  rw [hraw, hraw', h]

theorem cleanBrazilianPhone_accepted {raw : Text} (h : cleanBrazilianPhone raw digits = .ok r) :
    (['+'].isPrefixOf raw && !('+' :: brazil).isPrefixOf raw) = false ∧
      ((withoutCode digits).length = 10 ∨ (withoutCode digits).length = 11) := by
  unfold cleanBrazilianPhone at h
  unfold withoutCode
  dsimp only at h
  generalize (if (digits.length == 12 || digits.length == 13) && brazil.isPrefixOf digits then
    digits.drop 2 else digits) = number at h ⊢
  split at h
  · cases h
  next hraw =>
  split at h
  · cases h
  next hlength =>
  refine ⟨eq_false_of_ne_true hraw, or_iff_not_imp_left.2 ?_⟩
  simpa using hlength

/-- Where the mask cuts the code off too. -/
theorem cleanDigits_eq (h : (withoutCode digits).length = 10 ∨ (withoutCode digits).length = 11) :
    (if brazil.isPrefixOf digits && decide (11 < digits.length) then digits.drop 2 else digits) =
      withoutCode digits := by
  unfold withoutCode at h ⊢
  by_cases hcode : brazil.isPrefixOf digits = true
  · by_cases hlong : digits.length = 12 ∨ digits.length = 13
    · have hlt : 11 < digits.length := by omega
      rcases hlong with hlong | hlong <;> simp [hcode, hlong]
    · rw [not_or] at hlong
      have hwhole : (if (digits.length == 12 || digits.length == 13) && brazil.isPrefixOf digits
          then digits.drop 2 else digits) = digits := if_neg (by simp [hlong.1, hlong.2])
      rw [hwhole] at h ⊢
      exact if_neg (by rw [Bool.and_eq_true, decide_eq_true_eq]; omega)
  · simp [hcode]

/-- The parts of a masked number. -/
theorem onlyDigits_parts (ddd first last : Text) :
    onlyDigits ('(' :: (ddd ++ ')' :: ' ' :: (first ++ '-' :: last))) =
      onlyDigits ddd ++ (onlyDigits first ++ onlyDigits last) := by
  obtain ⟨-, hhyphen, -, hopen, hclose, hblank⟩ := separators_not_digits
  rw [onlyDigits_cons_sep _ hopen, onlyDigits_append, onlyDigits_cons_sep _ hclose,
    onlyDigits_cons_sep _ hblank, onlyDigits_append, onlyDigits_cons_sep _ hhyphen]

theorem ascii_parts {ddd first last : Text} (hddd : Ascii ddd) (hfirst : Ascii first)
    (hlast : Ascii last) : Ascii ('(' :: (ddd ++ ')' :: ' ' :: (first ++ '-' :: last))) := by
  have hseps : asciiOnly '(' = true ∧ asciiOnly ')' = true ∧ asciiOnly ' ' = true ∧
      asciiOnly '-' = true := by decide +kernel
  simp only [Ascii, List.all_append, List.all_cons, hseps, hddd.all, hfirst.all, hlast.all,
    Bool.and_self]

/-- **The mask of a whole Brazilian number** holds its local digits. -/
theorem formatBrazilianPhone_whole (hdigits : ∀ c ∈ digits, isDigit c = true)
    (h : (withoutCode digits).length = 10 ∨ (withoutCode digits).length = 11) :
    onlyDigits (AppJs.formatBrazilianPhone digits) = withoutCode digits ∧
      Ascii (AppJs.formatBrazilianPhone digits) ∧
      ∃ rest, AppJs.formatBrazilianPhone digits = '(' :: rest := by
  have hlocal : ∀ c ∈ withoutCode digits, isDigit c = true := by
    intro c hc
    unfold withoutCode at hc
    split at hc
    · exact hdigits c (List.mem_of_mem_drop hc)
    · exact hdigits c hc
  unfold AppJs.formatBrazilianPhone
  dsimp only
  rw [cleanDigits_eq h]
  generalize withoutCode digits = number at h hlocal
  have htake : number.take 11 = number := List.take_of_length_le (by omega)
  have hrest : ∀ c ∈ number.drop 2, isDigit c = true := fun c hc =>
    hlocal c (List.mem_of_mem_drop hc)
  have hparts : ∀ k, onlyDigits ('(' :: (slice 0 2 number ++ ')' :: ' ' ::
      (slice 0 k (number.drop 2) ++ '-' :: (number.drop 2).drop k))) = number ∧
      Ascii ('(' :: (slice 0 2 number ++ ')' :: ' ' ::
        (slice 0 k (number.drop 2) ++ '-' :: (number.drop 2).drop k))) := by
    intro k
    refine ⟨?_, ascii_parts (ascii_of_digits hlocal).slice (ascii_of_digits hrest).slice
      (ascii_of_digits hrest).drop⟩
    rw [onlyDigits_parts, onlyDigits_slice hlocal, onlyDigits_slice hrest, onlyDigits_drop hrest,
      slice_zero_append_drop, slice_zero_append_drop]
  have hlast : number.length = 11 → slice 5 9 (number.drop 2) = (number.drop 2).drop 5 :=
    fun hlength => List.take_of_length_le (by rw [List.length_drop, List.length_drop]; omega)
  rw [htake, if_neg (by omega), if_neg (by rw [List.length_drop]; omega)]
  rcases h with hlength | hlength
  · rw [if_pos (by rw [List.length_drop]; omega)]
    exact ⟨(hparts 4).1, (hparts 4).2, _, rfl⟩
  · rw [if_neg (by rw [List.length_drop]; omega), hlast hlength]
    exact ⟨(hparts 5).1, (hparts 5).2, _, rfl⟩

/-- The local digits of a foreign number begin with the code of the country once more, and are long
enough for it to be cut off. -/
def RepeatsCode (country number : Text) : Prop :=
  country <+: number ∧ country.length + 5 < number.length

/-- The digits of a foreign number without the code of the country. -/
def abroadDigits (country digits : Text) : Text :=
  if country.isPrefixOf digits && decide (country.length + 5 < digits.length) then
    digits.drop country.length
  else digits

theorem cleanInternationalPhone_congr {digits' : Text}
    (h : abroadDigits country digits = abroadDigits country digits') :
    cleanInternationalPhone country digits = cleanInternationalPhone country digits' := by
  unfold cleanInternationalPhone
  unfold abroadDigits at h
  dsimp only
  rw [h]

theorem cleanInternationalPhone_accepted (h : cleanInternationalPhone country digits = .ok r) :
    r = '+' :: country ++ ' ' :: abroadDigits country digits ∧
      6 ≤ (abroadDigits country digits).length ∧ (abroadDigits country digits).length ≤ 14 := by
  unfold cleanInternationalPhone at h
  unfold abroadDigits
  dsimp only at h
  generalize (if country.isPrefixOf digits && decide (country.length + 5 < digits.length) then
    digits.drop country.length else digits) = number at h ⊢
  split at h
  · cases h
  next hlength =>
  split at h
  · cases h
  refine ⟨(Except.ok.inj h).symm, ?_⟩
  simpa using hlength

theorem abroadDigits_subset : ∀ c ∈ abroadDigits country digits, c ∈ digits := by
  intro c hc
  unfold abroadDigits at hc
  split at hc
  · exact List.mem_of_mem_drop hc
  · exact hc

/-- The code is cut off again where the number repeats it, and only there. -/
theorem abroadDigits_of_repeats (h : RepeatsCode country number) :
    abroadDigits country number = number.drop country.length := by
  unfold abroadDigits
  refine if_pos ?_
  rw [Bool.and_eq_true, decide_eq_true_eq, List.isPrefixOf_iff_prefix]
  exact h

theorem abroadDigits_of_not (h : ¬ RepeatsCode country number) :
    abroadDigits country number = number := by
  unfold abroadDigits
  refine if_neg fun hcut => h ?_
  rwa [Bool.and_eq_true, decide_eq_true_eq, List.isPrefixOf_iff_prefix] at hcut

variable {phoneCountry requested : Text}

/-- `clean_contact_phone` of a text with a digit, for a country of the form. -/
theorem cleanContactPhone_eq (hne : onlyDecimals value ≠ [])
    (hcode : selectedCountry phoneCountry requested ∈ countryPhoneChoices) :
    cleanContactPhone phoneCountry requested value =
      if selectedCountry phoneCountry requested = brazil then
        cleanBrazilianPhone (strip value) (onlyDecimals value)
      else cleanInternationalPhone (selectedCountry phoneCountry requested) (onlyDecimals value) := by
  have hstrip : (strip value).isEmpty = false := by
    cases hs : strip value with
    | nil =>
      rw [← onlyDecimals_strip, hs] at hne
      exact absurd rfl hne
    | cons c rest => rfl
  have hdigits : (onlyDecimals value).isEmpty = false := by
    cases hd : onlyDecimals value with
    | nil => exact absurd hd hne
    | cons c rest => rfl
  unfold cleanContactPhone
  simp only [onlyDecimals_strip, hstrip, hdigits, List.contains_iff_mem.2 hcode, Bool.not_true,
    Bool.false_eq_true, if_false, beq_iff_eq]

/-- What is accepted has a digit and a country of the form. -/
theorem cleanContactPhone_accepted (h : cleanContactPhone phoneCountry requested value = .ok r)
    (hr : r ≠ []) : onlyDecimals value ≠ [] ∧
      selectedCountry phoneCountry requested ∈ countryPhoneChoices := by
  unfold cleanContactPhone at h
  dsimp only at h
  split at h
  · exact absurd (Except.ok.inj h).symm hr
  split at h
  · cases h
  next hcode =>
  split at h
  · cases h
  next hdigits =>
  refine ⟨fun hnil => hdigits ?_, ?_⟩
  · rw [onlyDecimals_strip, hnil]
    rfl
  · simpa using hcode

/-- The mask of a text with a digit. -/
theorem formatPhone_eq (hne : onlyDigits value ≠ []) :
    AppJs.formatPhone value country =
      if country = brazil then AppJs.formatBrazilianPhone (onlyDigits value)
      else (abroadDigits country (onlyDigits value)).take 14 := by
  have hvalue : value.isEmpty = false := by
    cases value with
    | nil => exact absurd rfl hne
    | cons c rest => rfl
  have hdigits : (onlyDigits value).isEmpty = false := by
    cases hd : onlyDigits value with
    | nil => exact absurd hd hne
    | cons c rest => rfl
  unfold AppJs.formatPhone abroadDigits
  simp only [hvalue, hdigits, Bool.false_eq_true, if_false]

/-- **The mask of an accepted Brazilian phone** is accepted with the same result. -/
theorem clean_maskedBrazilian (hascii : Ascii value)
    (hcountry : selectedCountry phoneCountry requested = brazil)
    (h : cleanContactPhone phoneCountry requested value = .ok r) (hr : r ≠ []) :
    cleanContactPhone phoneCountry requested (AppJs.formatPhone value brazil) = .ok r ∧
      Ascii (AppJs.formatPhone value brazil) := by
  obtain ⟨hne, hcode⟩ := cleanContactPhone_accepted h hr
  rw [cleanContactPhone_eq hne hcode, if_pos hcountry, hascii.onlyDecimals_eq] at h
  rw [hascii.onlyDecimals_eq] at hne
  obtain ⟨hplus, hlength⟩ := cleanBrazilianPhone_accepted h
  obtain ⟨hdigits, hmasked, rest, hrest⟩ :=
    formatBrazilianPhone_whole isDigit_of_mem_onlyDigits hlength
  rw [formatPhone_eq hne, if_pos rfl]
  refine ⟨?_, hmasked⟩
  have hdecimals := hmasked.onlyDecimals_eq.trans hdigits
  have hlocal := withoutCode_short hlength
  have hparen : (['+'].isPrefixOf (strip ('(' :: rest)) &&
      !('+' :: brazil).isPrefixOf (strip ('(' :: rest))) = false := by
    have hstart : strip ('(' :: rest) <+: '(' :: rest := by
      have h := List.rdropWhile_prefix Py.isSpace (('(' :: rest).dropWhile Py.isSpace)
      rwa [List.dropWhile_cons_of_neg (by decide)] at h
    rw [Bool.and_eq_false_iff]
    refine .inl (eq_false_of_ne_true fun hprefix => ?_)
    have h := (List.isPrefixOf_iff_prefix.1 hprefix).trans hstart
    rw [List.cons_prefix_cons] at h
    exact absurd h.1 (by decide)
  have hempty : withoutCode (onlyDigits value) ≠ [] := by
    rw [← List.length_pos_iff]
    omega
  rw [cleanContactPhone_eq (by rw [hdecimals]; exact hempty) hcode, if_pos hcountry, hdecimals,
    ← h]
  rw [← hrest] at hparen
  exact cleanBrazilianPhone_congr hparen hplus hlocal

/-- **The mask of an accepted foreign phone** is its local digits. -/
theorem formatPhone_abroad (hascii : Ascii value)
    (hcountry : selectedCountry phoneCountry requested ≠ brazil)
    (h : cleanContactPhone phoneCountry requested value = .ok r) (hr : r ≠ []) :
    ∃ number, (∀ c ∈ number, isDigit c = true) ∧ number ≠ [] ∧
      r = '+' :: selectedCountry phoneCountry requested ++ ' ' :: number ∧
      AppJs.formatPhone value (selectedCountry phoneCountry requested) = number ∧
      (¬ RepeatsCode (selectedCountry phoneCountry requested) number →
        cleanContactPhone phoneCountry requested number = .ok r) ∧
      (RepeatsCode (selectedCountry phoneCountry requested) number →
        cleanContactPhone phoneCountry requested number ≠ .ok r) := by
  obtain ⟨hne, hcode⟩ := cleanContactPhone_accepted h hr
  rw [cleanContactPhone_eq hne hcode, if_neg hcountry, hascii.onlyDecimals_eq] at h
  rw [hascii.onlyDecimals_eq] at hne
  obtain ⟨hresult, hleast, hmost⟩ := cleanInternationalPhone_accepted h
  have hdigits : ∀ c ∈ abroadDigits (selectedCountry phoneCountry requested) (onlyDigits value),
      isDigit c = true := fun c hc => isDigit_of_mem_onlyDigits c (abroadDigits_subset c hc)
  have hmask : AppJs.formatPhone value (selectedCountry phoneCountry requested) =
      abroadDigits (selectedCountry phoneCountry requested) (onlyDigits value) := by
    rw [formatPhone_eq hne, if_neg hcountry, List.take_of_length_le hmost]
  have hempty : abroadDigits (selectedCountry phoneCountry requested) (onlyDigits value) ≠ [] := by
    rw [← List.length_pos_iff]
    omega
  refine ⟨_, hdigits, hempty, hresult, hmask, ?_⟩
  have hdecimals := onlyDecimals_of_all fun c hc => isDecimal_of_isDigit (hdigits c hc)
  rw [cleanContactPhone_eq (by rw [hdecimals]; exact hempty) hcode, if_neg hcountry, hdecimals, ← h]
  refine ⟨fun hnot => cleanInternationalPhone_congr (abroadDigits_of_not hnot),
    fun hrepeats hagain => ?_⟩
  rw [h] at hagain
  obtain ⟨hcut, -⟩ := cleanInternationalPhone_accepted hagain
  rw [hresult] at hcut
  have hsame := List.append_cancel_left hcut
  rw [List.cons.injEq] at hsame
  have hlength := congrArg List.length hsame.2
  have hpos : 0 < (selectedCountry phoneCountry requested).length := by
    rw [List.length_pos_iff]
    intro hnil
    have hcode := code_nonempty _ hcode
    rw [hnil] at hcode
    cases hcode
  rw [abroadDigits_of_repeats hrepeats, List.length_drop] at hlength
  omega

/-- **An accepted phone under the mask.** However often the mask of the page passes over a phone that
`clean_contact_phone` takes, the form that is sent then stores the same phone, exactly when the
country is Brazil or the local digits do not begin with the code of the country once more. -/
theorem maskedPhone_clean (hascii : Ascii value)
    (h : cleanContactPhone phoneCountry requested value = .ok r) (hr : r ≠ []) :
    (∀ n, cleanContactPhone phoneCountry requested
      (maskedPhone (selectedCountry phoneCountry requested) n value) = .ok r) ↔
    selectedCountry phoneCountry requested = brazil ∨
      ¬ RepeatsCode (selectedCountry phoneCountry requested)
        (onlyDecimals (r.drop ((selectedCountry phoneCountry requested).length + 1))) := by
  by_cases hcountry : selectedCountry phoneCountry requested = brazil
  · refine iff_of_true (fun n => ?_) (.inl hcountry)
    have hpass : ∀ n, cleanContactPhone phoneCountry requested (maskedPhone brazil n value) = .ok r ∧
        Ascii (maskedPhone brazil n value) := by
      intro n
      induction n with
      | zero => exact ⟨h, hascii⟩
      | succ n ih =>
        rw [maskedPhone, Function.iterate_succ_apply']
        exact clean_maskedBrazilian ih.2 hcountry ih.1 hr
    rw [hcountry]
    exact (hpass n).1
  · obtain ⟨number, hdigits, hempty, hresult, hmask, hkept, hcut⟩ :=
      formatPhone_abroad hascii hcountry h hr
    have hnumber : onlyDecimals (r.drop ((selectedCountry phoneCountry requested).length + 1)) =
        number := by
      have hdrop : ('+' :: selectedCountry phoneCountry requested ++ ' ' :: number).drop
          ((selectedCountry phoneCountry requested).length + 1) = ' ' :: number :=
        List.drop_left' List.length_cons
      have hblank : onlyDecimals (' ' :: number) = onlyDecimals number :=
        List.filter_cons_of_neg (by decide +kernel)
      rw [hresult, hdrop, hblank,
        onlyDecimals_of_all fun c hc => isDecimal_of_isDigit (hdigits c hc)]
    rw [hnumber, or_iff_right hcountry]
    constructor
    · intro hall hrepeats
      have hone := hall 1
      rw [maskedPhone, Function.iterate_one, hmask] at hone
      exact hcut hrepeats hone
    · intro hnot n
      have hpass : ∀ n, cleanContactPhone phoneCountry requested
          (maskedPhone (selectedCountry phoneCountry requested) n value) = .ok r ∧
          Ascii (maskedPhone (selectedCountry phoneCountry requested) n value) := by
        intro n
        induction n with
        | zero => exact ⟨h, hascii⟩
        | succ n ih =>
          obtain ⟨number', hdigits', -, hresult', hmask', hkept', -⟩ :=
            formatPhone_abroad ih.2 hcountry ih.1 hr
          obtain rfl : number' = number := by
            rw [hresult] at hresult'
            have hsame := List.append_cancel_left hresult'
            rw [List.cons.injEq] at hsame
            exact hsame.2.symm
          rw [maskedPhone, Function.iterate_succ_apply']
          rw [maskedPhone] at hmask'
          rw [hmask']
          exact ⟨hkept' hnot, ascii_of_digits hdigits'⟩
      exact (hpass n).1

/-- A Brazilian phone after three passes. -/
theorem maskedPhone_clean_brazil : cleanContactPhone brazil []
    (maskedPhone (selectedCountry brazil []) 3 "11999990000".toList) =
      .ok "+55 (11) 99999-0000".toList := by
  have hcountry : selectedCountry brazil [] = brazil := by decide +kernel
  have hclean : cleanContactPhone brazil [] "11999990000".toList =
      .ok "+55 (11) 99999-0000".toList := by decide +kernel
  have hascii : Ascii "11999990000".toList := by
    unfold Ascii
    decide +kernel
  exact (maskedPhone_clean hascii hclean (by decide)).2 (.inl hcountry) 3

end Phone

end SheepContabil
