import SheepContabil.Spec.Sc20Phone

/-!
# The normal form of a phone

What `clean_contact_phone` returns is a fixed point of the functions that read it. A Brazilian
number starts with the digits of its country, and the local part of another is at least six digits
long, so a second cleaning drops exactly the code that the first one wrote. No code of the form
starts another, so the country is found again.
-/

namespace SheepContabil

open Py (onlyDecimals isDecimal isSpace not_isSpace_of_isDecimal)
open SC06 (Text strip)

section Characters

theorem onlyDecimals_append (a b : Text) :
    onlyDecimals (a ++ b) = onlyDecimals a ++ onlyDecimals b :=
  List.filter_append ..

theorem onlyDecimals_of_all {a : Text} (h : ∀ c ∈ a, isDecimal c = true) : onlyDecimals a = a :=
  List.filter_eq_self.mpr h

theorem isDecimal_of_mem_onlyDecimals {a : Text} : ∀ c ∈ onlyDecimals a, isDecimal c = true :=
  fun _ hc => (List.mem_filter.mp hc).2

/-- Nothing is stripped from a text that starts with a plus and ends with a digit. -/
theorem strip_plus (middle : Text) {tail : Text} (hne : tail ≠ [])
    (hdecimal : ∀ c ∈ tail, isDecimal c = true) :
    strip ('+' :: (middle ++ tail)) = '+' :: (middle ++ tail) := by
  obtain ⟨init, last, rfl⟩ := List.eq_nil_or_concat tail |>.resolve_left hne
  have hlast : isSpace last = false := not_isSpace_of_isDecimal (hdecimal last (by simp))
  unfold strip Py.stripOf
  rw [List.dropWhile_cons_of_neg (by decide), List.concat_eq_append, ← List.append_assoc,
    ← List.cons_append, List.rdropWhile_concat_neg _ _ _ (by simp [hlast])]

end Characters

section Codes

theorem isDecimal_of_code : ∀ code ∈ countryPhoneChoices, ∀ c ∈ code, isDecimal c = true := by
  have h : (countryPhoneChoices.all fun code => code.all isDecimal) = true := by decide +kernel
  simpa only [List.all_eq_true] using h

/-- No code starts another. -/
theorem code_unique : ∀ a ∈ countryPhoneChoices, ∀ b ∈ countryPhoneChoices,
    a.isPrefixOf b = true → a = b := by
  decide +kernel

theorem code_nonempty : ∀ code ∈ countryPhoneChoices, code.isEmpty = false := by decide +kernel

theorem brazil_mem : brazil ∈ countryPhoneChoices := by decide +kernel

/-- A number that starts with a code starts with no other. -/
theorem code_eq_of_start {code country rest : Text} (hcode : code ∈ countryPhoneChoices)
    (hcountry : country ∈ countryPhoneChoices)
    (h : code.isPrefixOf (country ++ rest) = true) : code = country := by
  rcases List.prefix_or_prefix_of_prefix (List.isPrefixOf_iff_prefix.mp h)
    (List.prefix_append country rest) with hstarts | hstarts
  · exact code_unique code hcode country hcountry (List.isPrefixOf_iff_prefix.mpr hstarts)
  · exact (code_unique country hcountry code hcode (List.isPrefixOf_iff_prefix.mpr hstarts)).symm

/-- The form shows the country of the code. -/
theorem initialCountry_eq {country r rest : Text} (hcountry : country ∈ countryPhoneChoices)
    (hdigits : onlyDecimals (strip r) = country ++ rest) : initialCountry r = country := by
  unfold initialCountry
  rw [hdigits]
  cases hfind : (countryPhoneChoices.insertionSort fun a b => b.length ≤ a.length).find?
      fun code : Text => code.isPrefixOf (country ++ rest) with
  | none =>
    have hnot := List.find?_eq_none.mp hfind country ((List.mem_insertionSort _).mpr hcountry)
    exact absurd (List.isPrefixOf_iff_prefix.mpr (List.prefix_append country rest)) hnot
  | some code =>
    have hcode := (List.mem_insertionSort _).mp (List.mem_of_find?_eq_some hfind)
    have hstarts := List.find?_some hfind
    exact code_eq_of_start hcode hcountry hstarts

end Codes

section Shapes

/-- The local digits that the checks for Brazil let through. -/
structure BrazilianNumber (number : Text) : Prop where
  decimal : ∀ c ∈ number, isDecimal c = true
  length : number.length = 10 ∨ number.length = 11
  ddd : validBrazilianDdds.contains (number.take 2) = true
  varied : isRepeated number = false
  localVaried : isRepeated (number.drop 2) = false
  mobile : ((number.drop 2).length == 9 && !(['9'].isPrefixOf (number.drop 2))) = false

/-- The local digits that the checks for another country let through. -/
structure InternationalNumber (country number : Text) : Prop where
  code : country ∈ countryPhoneChoices
  abroad : country ≠ brazil
  decimal : ∀ c ∈ number, isDecimal c = true
  least : 6 ≤ number.length
  most : number.length ≤ 14
  varied : isRepeated number = false

/-- How many local digits stand before the hyphen. -/
def hyphenAt (number : Text) : ℕ := if number.length = 11 then 5 else 4

/-- A Brazilian number as it is written. -/
def brazilianPhone (number : Text) : Text :=
  ['+', '5', '5', ' ', '('] ++ number.take 2 ++ [')', ' '] ++
    (number.drop 2).take (hyphenAt number) ++ ['-'] ++ (number.drop 2).drop (hyphenAt number)

/-- **What `clean_contact_phone` returns for a country.** -/
inductive NormalPhone : Text → Text → Prop where
  | brazilian {number : Text} (h : BrazilianNumber number) :
      NormalPhone brazil (brazilianPhone number)
  | international {country number : Text} (h : InternationalNumber country number) :
      NormalPhone country ('+' :: country ++ ' ' :: number)

end Shapes

section Brazil

variable {number : Text}

theorem length_afterDdd (h : BrazilianNumber number) :
    ((number.drop 2).length == 9) = decide (number.length = 11) := by
  rcases h.length with hlength | hlength <;> simp [hlength]

/-- The digits of the written number. -/
theorem onlyDecimals_brazilianPhone (h : BrazilianNumber number) :
    onlyDecimals (brazilianPhone number) = brazil ++ number := by
  have hsub : ∀ part : Text, (∀ c ∈ part, c ∈ number) → onlyDecimals part = part :=
    fun _ hpart => onlyDecimals_of_all fun c hc => h.decimal c (hpart c hc)
  have hddd := hsub (number.take 2) fun c => List.mem_of_mem_take
  have hfirst := hsub ((number.drop 2).take (hyphenAt number)) fun c hc =>
    List.mem_of_mem_drop (List.mem_of_mem_take hc)
  have hlast := hsub ((number.drop 2).drop (hyphenAt number)) fun c hc =>
    List.mem_of_mem_drop (List.mem_of_mem_drop hc)
  have hopen : onlyDecimals ['+', '5', '5', ' ', '('] = brazil := by decide
  have hclose : onlyDecimals [')', ' '] = [] := by decide
  have hhyphen : onlyDecimals ['-'] = [] := by decide
  simp only [brazilianPhone, onlyDecimals_append, hddd, hfirst, hlast, hopen, hclose, hhyphen,
    List.nil_append, List.append_assoc, List.take_append_drop]

theorem strip_brazilianPhone (h : BrazilianNumber number) :
    strip (brazilianPhone number) = brazilianPhone number := by
  have hne : (number.drop 2).drop (hyphenAt number) ≠ [] := by
    rw [ne_eq, List.drop_eq_nil_iff, List.length_drop, hyphenAt]
    split <;> rcases h.length with hlength | hlength <;> omega
  exact strip_plus ('5' :: '5' :: ' ' :: '(' :: (number.take 2 ++ [')', ' '] ++
    (number.drop 2).take (hyphenAt number) ++ ['-'])) hne fun c hc =>
      h.decimal c (List.mem_of_mem_drop (List.mem_of_mem_drop hc))

/-- The code is dropped again, and the number passes the same checks. -/
theorem cleanBrazilianPhone_again (h : BrazilianNumber number) :
    cleanBrazilianPhone (brazilianPhone number) (brazil ++ number) =
      .ok (brazilianPhone number) := by
  have hstarts : brazil.isPrefixOf (brazil ++ number) = true :=
    List.isPrefixOf_iff_prefix.mpr (List.prefix_append ..)
  have hlength : ((brazil ++ number).length == 12 || (brazil ++ number).length == 13) = true := by
    rcases h.length with hlength | hlength <;> simp [brazil, hlength]
  have hdrop : (brazil ++ number).drop 2 = number := rfl
  have hten : (!(number.length == 10 || number.length == 11)) = false := by
    rcases h.length with hlength | hlength <;> simp [hlength]
  unfold cleanBrazilianPhone
  simp only [hstarts, hlength, hdrop, hten, h.ddd, h.varied, h.localVaried, h.mobile, Bool.and_true,
    if_true, Bool.not_true, Bool.false_eq_true, if_false]
  rw [if_neg (by simp [brazilianPhone, brazil])]
  simp only [length_afterDdd h, decide_eq_true_eq, brazilianPhone, hyphenAt]
  split <;> simp

/-- Whatever was typed, what is returned for Brazil is such a number. -/
theorem cleanBrazilianPhone_ok {rawPhone digits r : Text}
    (hdecimal : ∀ c ∈ digits, isDecimal c = true)
    (h : cleanBrazilianPhone rawPhone digits = .ok r) :
    ∃ number, BrazilianNumber number ∧ r = brazilianPhone number := by
  unfold cleanBrazilianPhone at h
  dsimp only at h
  set number : Text :=
    if (digits.length == 12 || digits.length == 13) && brazil.isPrefixOf digits then digits.drop 2
    else digits with hnumber
  have hnumberDecimal : ∀ c ∈ number, isDecimal c = true := by
    intro c hc
    rw [hnumber] at hc
    split at hc
    · exact hdecimal c (List.mem_of_mem_drop hc)
    · exact hdecimal c hc
  clear_value number
  split_ifs at h with hplus hten hddd hvaried hlocal hmobile hnine
  all_goals simp only [Except.ok.injEq] at h
  all_goals
    simp only [Bool.not_eq_true', Bool.not_eq_false, Bool.or_eq_true, beq_iff_eq,
      Bool.not_eq_true] at hten hddd hvaried hlocal hmobile
    refine ⟨number, ⟨hnumberDecimal, hten, hddd, hvaried, hlocal, hmobile⟩, ?_⟩
  · simp only [List.length_drop, beq_iff_eq] at hnine
    rw [← h, brazilianPhone, hyphenAt, if_pos (by omega)]
    simp
  · simp only [List.length_drop, beq_iff_eq] at hnine
    rw [← h, brazilianPhone, hyphenAt, if_neg (by omega)]
    simp

theorem formatPhone_brazilianPhone (h : BrazilianNumber number) :
    formatPhone (brazilianPhone number) = brazilianPhone number := by
  have hstarts : brazil.isPrefixOf (brazil ++ number) = true :=
    List.isPrefixOf_iff_prefix.mpr (List.prefix_append ..)
  have hne : (brazilianPhone number).isEmpty = false := rfl
  have hdigits : (brazil ++ number).isEmpty = false := rfl
  have hdrop : (brazil ++ number).drop 2 = number := rfl
  unfold formatPhone
  simp only [strip_brazilianPhone h, onlyDecimals_brazilianPhone h, hne, hdigits, hstarts, hdrop,
    Bool.not_true, Bool.and_false, Bool.true_and, Bool.false_eq_true, if_false]
  rcases h.length with hlength | hlength
  · simp [hlength, brazilianPhone, hyphenAt]
  · simp [hlength, brazilianPhone, hyphenAt]

end Brazil

section Abroad

variable {country number : Text}

theorem onlyDecimals_international (h : InternationalNumber country number) :
    onlyDecimals ('+' :: country ++ ' ' :: number) = country ++ number := by
  have hplus : onlyDecimals ['+'] = [] := by decide
  have hblank : onlyDecimals [' '] = [] := by decide
  have happend : '+' :: country ++ ' ' :: number = ['+'] ++ country ++ [' '] ++ number := by simp
  rw [happend, onlyDecimals_append, onlyDecimals_append, onlyDecimals_append, hplus, hblank,
    onlyDecimals_of_all (isDecimal_of_code country h.code), onlyDecimals_of_all h.decimal]
  simp

theorem strip_international (h : InternationalNumber country number) :
    strip ('+' :: country ++ ' ' :: number) = '+' :: country ++ ' ' :: number := by
  have hne : number ≠ [] := by
    rintro rfl
    exact absurd h.least (by decide)
  have hstrip := strip_plus (country ++ [' ']) hne h.decimal
  simpa using hstrip

/-- The local part is long enough for the code to be dropped again. -/
theorem cleanInternationalPhone_again (h : InternationalNumber country number) :
    cleanInternationalPhone country (country ++ number) =
      .ok ('+' :: country ++ ' ' :: number) := by
  have hstarts : country.isPrefixOf (country ++ number) = true :=
    List.isPrefixOf_iff_prefix.mpr (List.prefix_append ..)
  have hlong : decide (country.length + 5 < (country ++ number).length) = true := by
    have hleast := h.least
    simp only [List.length_append, decide_eq_true_eq]
    omega
  unfold cleanInternationalPhone
  simp only [hstarts, hlong, h.least, h.most, h.varied, List.drop_left, decide_true, Bool.and_true,
    Bool.not_true, Bool.false_eq_true, if_true, if_false]

theorem cleanInternationalPhone_ok {digits r : Text} (hcode : country ∈ countryPhoneChoices)
    (habroad : country ≠ brazil) (hdecimal : ∀ c ∈ digits, isDecimal c = true)
    (h : cleanInternationalPhone country digits = .ok r) :
    ∃ number, InternationalNumber country number ∧ r = '+' :: country ++ ' ' :: number := by
  unfold cleanInternationalPhone at h
  dsimp only at h
  set number : Text :=
    if country.isPrefixOf digits && decide (country.length + 5 < digits.length) then
      digits.drop country.length
    else digits with hnumber
  have hnumberDecimal : ∀ c ∈ number, isDecimal c = true := by
    intro c hc
    rw [hnumber] at hc
    split at hc
    · exact hdecimal c (List.mem_of_mem_drop hc)
    · exact hdecimal c hc
  clear_value number
  split_ifs at h with hlength hvaried
  simp only [Bool.not_eq_true', Bool.not_eq_false, Bool.and_eq_true, decide_eq_true_eq,
    Bool.not_eq_true] at hlength hvaried
  exact ⟨number, ⟨hcode, habroad, hnumberDecimal, hlength.1, hlength.2, hvaried⟩,
    (Except.ok.inj h).symm⟩

theorem formatPhone_international (h : InternationalNumber country number) :
    formatPhone ('+' :: country ++ ' ' :: number) = '+' :: country ++ ' ' :: number := by
  have hcode := code_nonempty country h.code
  have hdigits : (country ++ number).isEmpty = false := by
    cases country with
    | nil => cases hcode
    | cons => rfl
  have hbrazil : brazil.isPrefixOf (country ++ number) = false := by
    cases hstarts : brazil.isPrefixOf (country ++ number) with
    | false => rfl
    | true => exact absurd (code_eq_of_start brazil_mem h.code hstarts).symm h.abroad
  have hempty : ('+' :: country ++ ' ' :: number).isEmpty = false := rfl
  have hplus : ['+'].isPrefixOf ('+' :: country ++ ' ' :: number) = true := by simp
  have hblank : ('+' :: country ++ ' ' :: number).contains ' ' = true := by simp
  unfold formatPhone
  simp only [strip_international h, onlyDecimals_international h, hempty, hdigits, hbrazil, hplus,
    hblank, Bool.not_false, Bool.and_true, Bool.true_or, Bool.false_eq_true, if_false, if_true]

end Abroad

section NormalForm

variable {country r : Text}

theorem NormalPhone.code (h : NormalPhone country r) : country ∈ countryPhoneChoices := by
  cases h with
  | brazilian => exact brazil_mem
  | international h => exact h.code

theorem NormalPhone.stripped (h : NormalPhone country r) : strip r = r := by
  cases h with
  | brazilian h => exact strip_brazilianPhone h
  | international h => exact strip_international h

theorem NormalPhone.start (h : NormalPhone country r) :
    r.take (country.length + 1) = '+' :: country := by
  cases h with
  | brazilian => rfl
  | international => simp

/-- The digits are the code and the local digits. -/
theorem NormalPhone.digits (h : NormalPhone country r) :
    onlyDecimals r = country ++ onlyDecimals (r.drop (country.length + 1)) := by
  have hplus : onlyDecimals ('+' :: country) = country := by
    rw [show '+' :: country = ['+'] ++ country from rfl, onlyDecimals_append,
      onlyDecimals_of_all (isDecimal_of_code country h.code)]
    rfl
  conv_lhs => rw [← List.take_append_drop (country.length + 1) r, onlyDecimals_append, h.start, hplus]

theorem NormalPhone.format (h : NormalPhone country r) : formatPhone r = r := by
  cases h with
  | brazilian h => exact formatPhone_brazilianPhone h
  | international h => exact formatPhone_international h

/-- **What is accepted is in normal form.** -/
theorem cleanContactPhone_ok {phoneCountry requested contactPhone : Text}
    (h : cleanContactPhone phoneCountry requested contactPhone = .ok r) (hr : r ≠ []) :
    NormalPhone (selectedCountry phoneCountry requested) r := by
  unfold cleanContactPhone at h
  dsimp only at h
  split_ifs at h with hblank hcode hdigits hbrazil
  · exact absurd (Except.ok.inj h).symm hr
  · rw [beq_iff_eq] at hbrazil
    obtain ⟨number, hnumber, rfl⟩ := cleanBrazilianPhone_ok isDecimal_of_mem_onlyDecimals h
    rw [hbrazil]
    exact .brazilian hnumber
  · rw [beq_iff_eq] at hbrazil
    simp only [Bool.not_eq_true', Bool.not_eq_false, List.contains_iff_mem] at hcode
    obtain ⟨number, hnumber, rfl⟩ :=
      cleanInternationalPhone_ok hcode hbrazil isDecimal_of_mem_onlyDecimals h
    exact .international hnumber

theorem NormalPhone.nonempty (h : NormalPhone country r) :
    r.isEmpty = false ∧ (onlyDecimals r).isEmpty = false := by
  constructor
  · cases h with
    | brazilian => rfl
    | international => rfl
  · have hcode := code_nonempty country h.code
    rw [h.digits]
    cases country with
    | nil => cases hcode
    | cons => rfl

/-- **A normal form is returned as it is.** -/
theorem NormalPhone.clean {phoneCountry requested : Text}
    (h : NormalPhone (selectedCountry phoneCountry requested) r) :
    cleanContactPhone phoneCountry requested r = .ok r := by
  have hcode : countryPhoneChoices.contains (selectedCountry phoneCountry requested) = true :=
    List.contains_iff_mem.mpr h.code
  obtain ⟨hne, hdigits⟩ := h.nonempty
  unfold cleanContactPhone
  simp only [h.stripped, hcode, hne, hdigits, Bool.not_true, Bool.false_eq_true, if_false]
  generalize selectedCountry phoneCountry requested = country at h
  cases h with
  | brazilian h =>
    rw [if_pos (beq_self_eq_true brazil), onlyDecimals_brazilianPhone h]
    exact cleanBrazilianPhone_again h
  | international h =>
    rw [if_neg (by simpa using h.abroad), onlyDecimals_international h]
    exact cleanInternationalPhone_again h

/-- The link dials the digits of a number with a plus. -/
theorem NormalPhone.dials (h : NormalPhone country r) {overridePhone : Option Text}
    {configured : Text} (hoverride : strip (overridePhone.getD configured) = []) (quoted : Text) :
    whatsappUrl overridePhone configured r quoted =
      "https://api.whatsapp.com/send?phone=".toList ++
        (country ++ onlyDecimals (r.drop (country.length + 1))) ++ "&text=".toList ++ quoted := by
  have hplus : ['+'].isPrefixOf r = true := by
    cases h with
    | brazilian => rfl
    | international => simp
  unfold whatsappUrl
  simp only [hoverride, List.isEmpty_nil, Bool.not_true, Bool.false_eq_true, if_false, h.stripped,
    hplus, Bool.false_and, h.nonempty.2]
  rw [h.digits]

end NormalForm

/-- **A cleaned phone is in normal form.** Whatever text the form accepts for a country, cleaning
the result again returns it, `format_phone` shows it as it is, the form of the stored certificate
shows the same country, and without an override the link dials the code of the country and the
local digits. -/
theorem cleanContactPhone_normal {phoneCountry requested contactPhone r : Text}
    (h : cleanContactPhone phoneCountry requested contactPhone = .ok r) (hr : r ≠ []) :
    cleanContactPhone phoneCountry requested r = .ok r ∧ formatPhone r = r ∧
    initialCountry r = selectedCountry phoneCountry requested ∧
    r.take ((selectedCountry phoneCountry requested).length + 1) =
      '+' :: selectedCountry phoneCountry requested ∧
    ∀ (overridePhone : Option Text) (configured quoted : Text),
      strip (overridePhone.getD configured) = [] →
      whatsappUrl overridePhone configured r quoted =
        "https://api.whatsapp.com/send?phone=".toList ++
          (selectedCountry phoneCountry requested ++
            onlyDecimals (r.drop ((selectedCountry phoneCountry requested).length + 1))) ++
          "&text=".toList ++ quoted := by
  have hnormal := cleanContactPhone_ok h hr
  refine ⟨hnormal.clean, hnormal.format, ?_, hnormal.start, fun overridePhone configured quoted
    hoverride => hnormal.dials hoverride quoted⟩
  exact initialCountry_eq hnormal.code (by rw [hnormal.stripped]; exact hnormal.digits)

/-- A Portuguese number typed with its code and blanks. -/
theorem cleanContactPhone_normal_portuguese :
    formatPhone "+351 912345678".toList = "+351 912345678".toList :=
  (@cleanContactPhone_normal "351".toList [] " 351 912 345 678 ".toList "+351 912345678".toList
    (by decide +kernel) (by decide +kernel)).2.1

end SheepContabil
