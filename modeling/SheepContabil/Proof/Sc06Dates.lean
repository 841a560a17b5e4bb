import SheepContabil.Proof.Sc06Answers

/-!
# SC-06: the spellings of a date

The stored value of a date is its text, so two spellings of one day are two answers. Within one
spelling a day has one text.

* `day_inj`: two texts of one spelling that denote one day are the same text.
* `isoFormat_iff`: what the form submits is the calendar spelling.
* `dates_canonical_iff`: two answers of one day are one answer exactly when they are spelled alike,
  and a condition can be met from the form exactly when its value is a calendar date.
-/

namespace SheepContabil.SC06

section Digits

theorem number_append (digits : Text) (c : Char) :
    number (digits ++ [c]) = 10 * number digits + (c.toNat - 48) := by
  unfold number
  rw [List.map_append, List.reverse_append, List.map_singleton, List.reverse_singleton,
    List.singleton_append, Nat.ofDigits_cons, Nat.add_comm]

theorem digit_bounds {c : Char} (h : c.isDigit = true) : 48 ≤ c.toNat ∧ c.toNat ≤ 57 := by
  simp only [Char.isDigit, Bool.and_eq_true, decide_eq_true_eq] at h
  exact ⟨h.1, h.2⟩

theorem digits_inj : ∀ {xs ys : Text}, (∀ c ∈ xs, c.isDigit = true) → (∀ c ∈ ys, c.isDigit = true) →
    xs.map (fun c => c.toNat - 48) = ys.map (fun c => c.toNat - 48) → xs = ys
  | [], [], _, _, _ => rfl
  | [], y :: ys, _, _, h => by simp at h
  | x :: xs, [], _, _, h => by simp at h
  | x :: xs, y :: ys, hx, hy, h => by
    rw [List.map_cons, List.map_cons, List.cons.injEq] at h
    have hxb := digit_bounds (hx x (by simp))
    have hyb := digit_bounds (hy y (by simp))
    have hchar : x = y := Char.toNat_inj.mp (by omega)
    rw [hchar, digits_inj (fun c hc => hx c (by simp [hc])) (fun c hc => hy c (by simp [hc])) h.2]

/-- Digits on a fixed width are known by their number. -/
theorem number_inj {xs ys : Text} (hx : ∀ c ∈ xs, c.isDigit = true) (hy : ∀ c ∈ ys, c.isDigit = true)
    (hlength : xs.length = ys.length) (h : number xs = number ys) : xs = ys := by
  have hdigit : ∀ {digits : Text}, (∀ c ∈ digits, c.isDigit = true) →
      ∀ n ∈ (digits.map fun c => c.toNat - 48).reverse, n < 10 := by
    intro digits hdigits n hn
    obtain ⟨c, hc, rfl⟩ := List.mem_map.mp (List.mem_reverse.mp hn)
    have hbounds := digit_bounds (hdigits c hc)
    omega
  have hlist := Nat.ofDigits_inj_of_len_eq (by omega) (by simpa using hlength) (hdigit hx) (hdigit hy) h
  exact digits_inj hx hy (List.reverse_injective hlist)

variable {layout x y : Text}

theorem fieldDigits_digit {l : Char} (hl : isField l = true) : ∀ {layout x : Text},
    fits layout x = true → ∀ c ∈ fieldDigits l layout x, c.isDigit = true
  | [], [], _, c, hc => by simp [fieldDigits] at hc
  | [], _ :: _, h, _, _ => by simp [fits] at h
  | _ :: _, [], h, _, _ => by simp [fits] at h
  | l' :: layout, c' :: x, h, c, hc => by
    simp only [fits, Bool.and_eq_true] at h
    rw [fieldDigits] at hc
    split at hc
    · next heq =>
      rcases List.mem_cons.mp hc with rfl | hc
      · rw [heq, if_pos hl] at h
        exact h.1
      · exact fieldDigits_digit hl h.2 c hc
    · exact fieldDigits_digit hl h.2 c hc

theorem fieldDigits_length (l : Char) : ∀ {layout x : Text}, fits layout x = true →
    (fieldDigits l layout x).length = layout.count l
  | [], [], _ => rfl
  | [], _ :: _, h => by simp [fits] at h
  | _ :: _, [], h => by simp [fits] at h
  | l' :: layout, c :: x, h => by
    simp only [fits, Bool.and_eq_true] at h
    rw [fieldDigits, List.count_cons]
    split
    · next heq => simp [heq, fieldDigits_length l h.2]
    · next hne => simp [hne, fieldDigits_length l h.2]

/-- A text that fits a layout is known by its fields. -/
theorem fits_inj : ∀ {layout x y : Text}, fits layout x = true → fits layout y = true →
    (∀ l, isField l = true → fieldDigits l layout x = fieldDigits l layout y) → x = y
  | [], [], [], _, _, _ => rfl
  | [], _ :: _, _, h, _, _ => by simp [fits] at h
  | [], [], _ :: _, _, h, _ => by simp [fits] at h
  | _ :: _, [], _, h, _, _ => by simp [fits] at h
  | _ :: _, _ :: _, [], _, h, _ => by simp [fits] at h
  | l' :: layout, c :: x, c' :: y, hx, hy, h => by
    simp only [fits, Bool.and_eq_true] at hx hy
    have hrest : ∀ l, isField l = true → fieldDigits l layout x = fieldDigits l layout y := by
      intro l hl
      have hfield := h l hl
      rw [fieldDigits, fieldDigits] at hfield
      by_cases heq : l' = l
      · rw [if_pos heq, if_pos heq, List.cons.injEq] at hfield
        exact hfield.2
      · rwa [if_neg heq, if_neg heq] at hfield
    -- a field shows its digit, the rest of the layout is fixed
    have hchar : c = c' := by
      by_cases hfield : isField l' = true
      · have hhead := h l' hfield
        rw [fieldDigits, fieldDigits, if_pos rfl, if_pos rfl, List.cons.injEq] at hhead
        exact hhead.1
      · have hc := hx.1
        have hc' := hy.1
        rw [if_neg hfield, beq_iff_eq] at hc hc'
        rw [hc, hc']
    rw [hchar, fits_inj hx.2 hy.2 hrest]

/-- A text that fits a layout is known by the numbers of its fields. -/
theorem fields_inj (hx : fits layout x = true) (hy : fits layout y = true)
    (h : ∀ l, isField l = true → l ∈ layout →
      number (fieldDigits l layout x) = number (fieldDigits l layout y)) : x = y := by
  refine fits_inj hx hy fun l hl => ?_
  have hlength : (fieldDigits l layout x).length = (fieldDigits l layout y).length := by
    rw [fieldDigits_length l hx, fieldDigits_length l hy]
  by_cases hin : l ∈ layout
  · exact number_inj (fieldDigits_digit hl hx) (fieldDigits_digit hl hy) hlength (h l hl hin)
  · have hnone : ∀ {z : Text}, fits layout z = true → fieldDigits l layout z = [] := by
      intro z hz
      rw [← List.length_eq_zero_iff, fieldDigits_length l hz, List.count_eq_zero]
      exact hin
    rw [hnone hx, hnone hy]

end Digits

section Calendar

variable {year year' month month' week week' day day' : ℕ} {n : ℕ}

theorem daysBeforeYear_succ (h : 1 ≤ year) :
    daysBeforeYear (year + 1) = daysBeforeYear year + 365 + if isLeap year then 1 else 0 := by
  obtain ⟨k, rfl⟩ : ∃ k, year = k + 1 := ⟨year - 1, by omega⟩
  have h4 : (k + 1) / 4 = k / 4 + if (k + 1) % 4 = 0 then 1 else 0 := by split <;> omega
  have h100 : (k + 1) / 100 = k / 100 + if (k + 1) % 100 = 0 then 1 else 0 := by split <;> omega
  have h400 : (k + 1) / 400 = k / 400 + if (k + 1) % 400 = 0 then 1 else 0 := by split <;> omega
  -- every fourth year, but for the centuries that are not divisible by 400
  have hleap : (if isLeap (k + 1) then 1 else 0) + (if (k + 1) % 100 = 0 then 1 else 0) =
      (if (k + 1) % 4 = 0 then 1 else 0) + if (k + 1) % 400 = 0 then 1 else 0 := by
    have hcentury : (k + 1) % 100 = 0 → (k + 1) % 4 = 0 := by omega
    have hfour : (k + 1) % 400 = 0 → (k + 1) % 100 = 0 := by omega
    unfold isLeap
    by_cases hc : (k + 1) % 100 = 0
    · by_cases hf : (k + 1) % 400 = 0 <;> simp [hc, hf, hcentury hc]
    · have hf : (k + 1) % 400 ≠ 0 := fun hf => hc (hfour hf)
      by_cases hy : (k + 1) % 4 = 0 <;> simp [hc, hf, hy]
  have hle : (if (k + 1) % 100 = 0 then 1 else 0) ≤ if (k + 1) % 4 = 0 then 1 else 0 := by
    split <;> split <;> omega
  unfold daysBeforeYear
  rw [Nat.add_sub_cancel, Nat.add_sub_cancel, h4, h100, h400]
  omega

theorem daysThroughMonth_twelve (year : ℕ) :
    daysThroughMonth year 12 = 365 + if isLeap year then 1 else 0 := by
  simp only [daysThroughMonth, daysInMonth]
  cases isLeap year <;> rfl

theorem daysThroughMonth_mono (year : ℕ) : Monotone (daysThroughMonth year) :=
  monotone_nat_of_le_succ fun _ => Nat.le_add_right _ _

theorem daysBeforeYear_mono (h : 1 ≤ year) (hle : year ≤ year') :
    daysBeforeYear year ≤ daysBeforeYear year' := by
  induction year', hle using Nat.le_induction with
  | base => exact le_rfl
  | succ k hk ih => rw [daysBeforeYear_succ (h.trans hk)]; omega

/-- A calendar day is within its month and its year. -/
theorem calendarDay_bounds (h : calendarDay year month day = some n) :
    (1 ≤ year ∧ 1 ≤ month ∧ 1 ≤ day) ∧
      n = daysBeforeYear year + daysThroughMonth year (month - 1) + day ∧
      daysThroughMonth year (month - 1) + day ≤ daysThroughMonth year month ∧
      n ≤ daysBeforeYear (year + 1) := by
  unfold calendarDay at h
  split at h
  · next hvalid =>
    obtain ⟨hyear, -, hmonth, hmonth', hday, hday'⟩ := hvalid
    have hmonthDays : daysThroughMonth year (month - 1) + day ≤ daysThroughMonth year month := by
      obtain ⟨k, rfl⟩ : ∃ k, month = k + 1 := ⟨month - 1, by omega⟩
      rw [daysThroughMonth, Nat.add_sub_cancel]
      omega
    have hyearDays : daysThroughMonth year month ≤ daysThroughMonth year 12 :=
      daysThroughMonth_mono year hmonth'
    have heq : n = daysBeforeYear year + daysThroughMonth year (month - 1) + day :=
      (Option.some.inj h).symm
    refine ⟨⟨hyear, hmonth, hday⟩, heq, hmonthDays, ?_⟩
    rw [daysBeforeYear_succ hyear]
    rw [daysThroughMonth_twelve] at hyearDays
    omega
  · cases h

/-- **A calendar date is known by its day.** -/
theorem calendarDay_inj (h : calendarDay year month day = some n)
    (h' : calendarDay year' month' day' = some n) : year = year' ∧ month = month' ∧ day = day' := by
  obtain ⟨⟨hyear, hmonth, hday⟩, heq, hin, hle⟩ := calendarDay_bounds h
  obtain ⟨⟨hyear', hmonth', hday'⟩, heq', hin', hle'⟩ := calendarDay_bounds h'
  have hsame : year = year' := by
    rcases lt_trichotomy year year' with hlt | heq | hlt
    · have := daysBeforeYear_mono (by omega) (show year + 1 ≤ year' by omega)
      omega
    · exact heq
    · have := daysBeforeYear_mono (by omega) (show year' + 1 ≤ year by omega)
      omega
  subst hsame
  have hmonths : month = month' := by
    rcases lt_trichotomy month month' with hlt | heq | hlt
    · have := daysThroughMonth_mono year (show month ≤ month' - 1 by omega)
      omega
    · exact heq
    · have := daysThroughMonth_mono year (show month' ≤ month - 1 by omega)
      omega
  subst hmonths
  exact ⟨rfl, rfl, by omega⟩

/-- An ISO year ends where the next one starts. -/
theorem firstMonday_succ (h : 1 ≤ year) :
    firstMonday (year + 1) = firstMonday year + 7 * weeksInYear year := by
  have hstep := daysBeforeYear_succ h
  unfold firstMonday weeksInYear
  dsimp only
  cases hleap : isLeap year with
  | true =>
    rw [hstep, hleap, if_pos rfl]
    simp only [and_true]
    split <;> split <;> split <;> omega
  | false =>
    rw [hstep, hleap, if_neg Bool.false_ne_true]
    simp only [Bool.false_eq_true, and_false, or_false]
    split <;> split <;> split <;> omega

theorem firstMonday_mono (h : 1 ≤ year) (hle : year ≤ year') : firstMonday year ≤ firstMonday year' := by
  induction year', hle using Nat.le_induction with
  | base => exact le_rfl
  | succ k hk ih => rw [firstMonday_succ (h.trans hk)]; omega

/-- A week day is within its ISO year. -/
theorem weekDay_bounds (h : weekDay year week day = some n) :
    (1 ≤ year ∧ 1 ≤ week ∧ 1 ≤ day ∧ day ≤ 7) ∧
      n = firstMonday year + ((week - 1) * 7 + (day - 1)) ∧ n < firstMonday (year + 1) := by
  unfold weekDay at h
  split at h
  · next hvalid =>
    obtain ⟨hyear, -, hweek, hweek', hday, hday', -⟩ := hvalid
    have heq : n = firstMonday year + ((week - 1) * 7 + (day - 1)) := (Option.some.inj h).symm
    refine ⟨⟨hyear, hweek, hday, hday'⟩, heq, ?_⟩
    rw [firstMonday_succ hyear]
    omega
  · cases h

/-- **A week date is known by its day.** -/
theorem weekDay_inj (h : weekDay year week day = some n) (h' : weekDay year' week' day' = some n) :
    year = year' ∧ week = week' ∧ day = day' := by
  obtain ⟨⟨hyear, hweek, hday, hday7⟩, heq, hlt⟩ := weekDay_bounds h
  obtain ⟨⟨hyear', hweek', hday', hday7'⟩, heq', hlt'⟩ := weekDay_bounds h'
  have hsame : year = year' := by
    rcases lt_trichotomy year year' with hyears | heq | hyears
    · have := firstMonday_mono (by omega) (show year + 1 ≤ year' by omega)
      omega
    · exact heq
    · have := firstMonday_mono (by omega) (show year' + 1 ≤ year by omega)
      omega
  subst hsame
  exact ⟨rfl, by omega, by omega⟩

end Calendar

section Spelling

variable {x y : Text} {form : IsoForm} {n : ℕ}

/-- The fields of a layout, when they are among these. -/
theorem mem_fields {layout : Text} (fields : Text)
    (h : (layout.all fun l => !isField l || fields.contains l) = true) {l : Char} (hin : l ∈ layout)
    (hl : isField l = true) : l ∈ fields := by
  have hone := List.all_eq_true.1 h l hin
  simpa [hl] using hone

/-- **Within one spelling a day has one text.** -/
theorem day_inj (hx : fits form.layout x = true) (hy : fits form.layout y = true)
    (hxday : form.day x = some n) (hyday : form.day y = some n) : x = y := by
  -- a day determines the fields of each form
  refine fields_inj hx hy fun l hl hin => ?_
  cases form with
  | calendar | calendarBasic =>
    obtain ⟨hyear, hmonth, hday⟩ := calendarDay_inj hxday hyday
    have hcases : l = 'y' ∨ l = 'm' ∨ l = 'd' := by
      simpa using mem_fields ['y', 'm', 'd'] (by decide) hin hl
    rcases hcases with rfl | rfl | rfl
    · exact hyear
    · exact hmonth
    · exact hday
  | week | weekBasic =>
    obtain ⟨hyear, hweek, hday⟩ := weekDay_inj hxday hyday
    have hcases : l = 'y' ∨ l = 'w' ∨ l = 'd' := by
      simpa using mem_fields ['y', 'w', 'd'] (by decide) hin hl
    rcases hcases with rfl | rfl | rfl
    · exact hyear
    · exact hweek
    · exact hday
  | weekStart | weekStartBasic =>
    obtain ⟨hyear, hweek, -⟩ := weekDay_inj hxday hyday
    have hcases : l = 'y' ∨ l = 'w' := by
      simpa using mem_fields ['y', 'w'] (by decide) hin hl
    rcases hcases with rfl | rfl
    · exact hyear
    · exact hweek

theorem isoForm_fits (h : isoForm? x = some form) : fits form.layout x = true := by
  have hfound := List.find?_some h
  exact hfound

/-- **Two texts that are spelled alike and denote one day are the same text.** -/
theorem fromIsoFormat_inj (hx : fromIsoFormat x = some n) (hy : fromIsoFormat y = some n)
    (hform : isoForm? x = isoForm? y) : x = y := by
  unfold fromIsoFormat at hx hy
  rw [← hform] at hy
  cases hfound : isoForm? x with
  | none => simp [hfound] at hx
  | some form =>
    rw [hfound, Option.bind_some] at hx hy
    exact day_inj (isoForm_fits hfound) (isoForm_fits (hform ▸ hfound)) hx hy

end Spelling

section Format

variable {year month day n : ℕ}

/-- The number of a padded text, if it has enough digits. -/
theorem number_padded (width n : ℕ) (h : n < 10 ^ width) : number (padded width n) = n := by
  induction width generalizing n with
  | zero =>
    have hzero : n = 0 := by simpa using h
    rw [hzero]
    rfl
  | succ width ih =>
    have hdiv : n / 10 < 10 ^ width := by rw [pow_succ] at h; omega
    have hmod : n % 10 < 10 := Nat.mod_lt _ (by omega)
    rw [padded, number_append, ih _ hdiv, Nat.toNat_digitChar_of_lt_ten hmod]
    omega

/-- The digits of a date that the form submits. -/
theorem isoFormat_fields (year month day : ℕ) :
    fits IsoForm.calendar.layout (isoFormat year month day) = true ∧
      fieldDigits 'y' IsoForm.calendar.layout (isoFormat year month day) = padded 4 year ∧
      fieldDigits 'm' IsoForm.calendar.layout (isoFormat year month day) = padded 2 month ∧
      fieldDigits 'd' IsoForm.calendar.layout (isoFormat year month day) = padded 2 day := by
  have hlayout : IsoForm.calendar.layout =
      ['y', 'y', 'y', 'y', '-', 'm', 'm', '-', 'd', 'd'] := rfl
  simp [hlayout, isoFormat, padded, fits, isField, fieldDigits, Nat.isDigit_digitChar, Nat.mod_lt]

theorem calendarDay_limits (h : calendarDay year month day = some n) :
    year < 10 ^ 4 ∧ month < 10 ^ 2 ∧ day < 10 ^ 2 := by
  unfold calendarDay at h
  split at h
  · next hvalid =>
    obtain ⟨-, hyear, -, hmonth, -, hday⟩ := hvalid
    have hdays : daysInMonth year month ≤ 31 := by
      unfold daysInMonth
      split
      · split <;> omega
      · split <;> omega
    omega
  · cases h

/-- `date.isoformat` is read back. -/
theorem fromIsoFormat_isoFormat (h : calendarDay year month day = some n) :
    isoForm? (isoFormat year month day) = some .calendar ∧
      fromIsoFormat (isoFormat year month day) = some n := by
  obtain ⟨hfits, hy, hm, hd⟩ := isoFormat_fields year month day
  obtain ⟨hyear, hmonth, hday⟩ := calendarDay_limits h
  have hform : isoForm? (isoFormat year month day) = some .calendar := by
    rw [isoForm?, IsoForm.all, List.find?_cons, hfits]
  refine ⟨hform, ?_⟩
  rw [fromIsoFormat, hform, Option.bind_some, IsoForm.day]
  simp only [hy, hm, hd]
  rw [number_padded 4 year hyear, number_padded 2 month hmonth, number_padded 2 day hday, h]

/-- A value that the form can submit for a date: `date.isoformat` of a day of the calendar. -/
def submitted (value : Text) : Prop :=
  ∃ year month day n, calendarDay year month day = some n ∧ isoFormat year month day = value

/-- **The form submits the calendar spelling, and every date so spelled.** -/
theorem isoFormat_iff {value : Text} (hdate : (fromIsoFormat value).isSome = true) :
    submitted value ↔ isoForm? value = some .calendar := by
  constructor
  · rintro ⟨year, month, day, n, hday, rfl⟩
    exact (fromIsoFormat_isoFormat hday).1
  · intro hform
    obtain ⟨n, hn⟩ := Option.isSome_iff_exists.mp hdate
    have hday := hn
    rw [fromIsoFormat, hform, Option.bind_some, IsoForm.day] at hday
    obtain ⟨hform', hn'⟩ := fromIsoFormat_isoFormat hday
    exact ⟨_, _, _, n, hday, fromIsoFormat_inj hn' hn (hform'.trans hform.symm)⟩

end Format

section Canonical

variable {isEmail : Text → Bool} {schema : Schema}

/-- The answer of one question is this text. -/
def withText (answers : QuestionId → Option RawAnswer) (field : QuestionId) (t : Text) :
    QuestionId → Option RawAnswer :=
  fun i => if i = field then some (.text t) else answers i

/-- Two texts are one answer of a question: they are stored alike, and on any map of answers they show
the same questions, on the form and on the service. -/
def SameAnswer (validators : Validators) (schema : Schema) (q : Question) (t t' : Text) : Prop :=
  coerceAnswer validators q (.text t) = coerceAnswer validators q (.text t') ∧
    ∀ answers requireComplete,
      activeQuestions validators (withText answers q.id t) requireComplete schema =
        activeQuestions validators (withText answers q.id t') requireComplete schema ∧
      getActiveQuestions validators (withText answers q.id t) schema =
        getActiveQuestions validators (withText answers q.id t') schema

theorem coerce_strip (validators : Validators) (q : Question) {t t' : Text} (h : strip t = strip t') :
    coerceAnswer validators q (.text t) = coerceAnswer validators q (.text t') := by
  unfold coerceAnswer
  simp only [h]

theorem isEmpty_strip {t : Text} (h : strip t ≠ []) : (RawAnswer.text t).isEmpty = false := by
  cases t with
  | nil => exact absurd strip_nil h
  | cons c rest => rfl

/-- Texts that are the same once stripped are one answer. -/
theorem sameAnswer_strip {validators : Validators} (haccepted : schema.accepted validators = true)
    (q : Question) {t t' : Text} (h : strip t = strip t') (hne : strip t ≠ []) :
    SameAnswer validators schema q t t' := by
  refine ⟨coerce_strip validators q h, fun answers requireComplete => ?_⟩
  have hkept : keptAnswer validators (withText answers q.id t) =
      keptAnswer validators (withText answers q.id t') := by
    funext p
    unfold keptAnswer withText
    split
    · rw [Option.bind_some, Option.bind_some, isEmpty_strip hne, isEmpty_strip (h ▸ hne),
        coerce_strip validators p h]
    · rfl
  have heffective : effectiveAnswer validators (withText answers q.id t) =
      effectiveAnswer validators (withText answers q.id t') := by
    funext p
    unfold effectiveAnswer withText
    split
    · rw [Option.bind_some, Option.bind_some, coerce_strip validators p h]
    · rfl
  rw [active_eq haccepted, active_eq haccepted, getActiveQuestions_shown haccepted,
    getActiveQuestions_shown haccepted, sanitizeShown, sanitizeShown, hkept, heffective]
  exact ⟨rfl, rfl⟩

theorem date_coerced {q : Question} (htype : q.type = .date) {t : Text} {v : Answer}
    (h : coerceAnswer (isoValidators isEmail) q (.text t) = .ok v) :
    v = .text (strip t) ∧ (fromIsoFormat (strip t)).isSome = true := by
  obtain ⟨t', ht, hv, herror⟩ := coerce_text (by rw [htype]; exact fun h => by cases h) h
  cases ht
  refine ⟨hv, ?_⟩
  unfold Question.textError? at herror
  rw [if_neg (by simp [htype])] at herror
  by_contra hnot
  rw [if_pos ⟨htype, by simpa [isoValidators] using hnot⟩] at herror
  cases herror

/-- **Two answers of one day are one answer exactly when they are spelled alike; and the form can
submit the value of a condition exactly when it is spelled as a calendar date.** -/
theorem dates_canonical_iff (isEmail : Text → Bool) (schema : Schema)
    (haccepted : schema.accepted (isoValidators isEmail) = true) :
    (∀ q ∈ schema.questions, q.type = .date → ∀ t t' v v' n,
      coerceAnswer (isoValidators isEmail) q (.text t) = .ok v →
      coerceAnswer (isoValidators isEmail) q (.text t') = .ok v' →
      fromIsoFormat (strip t) = some n → fromIsoFormat (strip t') = some n →
      (SameAnswer (isoValidators isEmail) schema q t t' ↔
        isoForm? (strip t) = isoForm? (strip t'))) ∧
    (∀ q ∈ schema.questions, q.type = .date → ∀ value, (q.id, Answer.text value) ∈ schema.comparisons →
      (submitted value ↔ isoForm? value = some .calendar)) := by
  constructor
  · intro q _ htype t t' v v' n hv hv' hday hday'
    constructor
    · rintro ⟨hsame, -⟩
      rw [hv, hv', Except.ok.injEq, (date_coerced htype hv).1, (date_coerced htype hv').1,
        Answer.text.injEq] at hsame
      rw [hsame]
    · intro hform
      have hstrip := fromIsoFormat_inj hday hday' hform
      refine sameAnswer_strip haccepted q hstrip fun hnil => ?_
      rw [hnil] at hday
      cases hday
  · intro q hq htype value hin
    refine isoFormat_iff ?_
    have hcompares := Schema.accepted_compares haccepted hq hin rfl
    simp only [Question.comparesWith, Bool.and_eq_true, beq_iff_eq] at hcompares
    cases hcoerce : coerceAnswer (isoValidators isEmail) q (.text value) with
    | error message => simp [hcoerce, Except.toOption] at hcompares
    | ok v =>
      obtain ⟨hv, hdate⟩ := date_coerced htype hcoerce
      have hstrip : strip value = value := by
        simpa [hcoerce, Except.toOption, hv] using hcompares.2
      rwa [hstrip] at hdate

end Canonical

section Simulation

def dateQuestion : Question where
  id := "data".toList
  label := "Data".toList
  type := .date

/-- A date, and a question for each of two spellings of one day. -/
def dateSchema : Schema where
  title := "Abertura".toList
  sections :=
    [{ id := "dados".toList, title := "Dados".toList
       questions :=
        [dateQuestion,
          { id := "motivo".toList, label := "Motivo".toList, type := .text
            visibleWhen := some (.equals "data".toList (.text "2024-01-15".toList)) },
          { id := "prazo".toList, label := "Prazo".toList, type := .text
            visibleWhen := some (.equals "data".toList (.text "20240115".toList)) }] }]

theorem dateSchema_accepted : dateSchema.accepted (isoValidators fun _ => false) = true := by
  decide +kernel

/-- **Two spellings of one day show different questions, and a condition the validator accepts waits
for a spelling that the form never submits.** -/
theorem spellings_differ :
    dateSchema.accepted (isoValidators fun _ => false) = true ∧
      fromIsoFormat "2024-01-15".toList = fromIsoFormat "2024-W03-1".toList ∧
      activeQuestions (isoValidators fun _ => false) (answeredWith "2024-01-15") false dateSchema =
        ["data".toList, "motivo".toList] ∧
      activeQuestions (isoValidators fun _ => false) (answeredWith "2024-W03-1") false dateSchema =
        ["data".toList] ∧
      ¬ submitted "20240115".toList := by
  refine ⟨dateSchema_accepted, by decide +kernel, by decide +kernel, by decide +kernel, fun h => ?_⟩
  have hform := (isoFormat_iff (by decide +kernel)).mp h
  revert hform
  decide +kernel

/-- A date with spaces around it is the same answer. -/
theorem dates_canonical_sim :
    SameAnswer (isoValidators fun _ => false) dateSchema dateQuestion " 2024-01-15".toList
      "2024-01-15".toList := by
  have hquestion : dateQuestion ∈ dateSchema.questions := List.mem_cons_self
  have hpadded : coerceAnswer (isoValidators fun _ => false) dateQuestion
      (.text " 2024-01-15".toList) = .ok (.text "2024-01-15".toList) := by decide +kernel
  have hplain : coerceAnswer (isoValidators fun _ => false) dateQuestion
      (.text "2024-01-15".toList) = .ok (.text "2024-01-15".toList) := by decide +kernel
  have hday : fromIsoFormat (strip " 2024-01-15".toList) = some 738900 := by decide +kernel
  have hday' : fromIsoFormat (strip "2024-01-15".toList) = some 738900 := by decide +kernel
  have hform : isoForm? (strip " 2024-01-15".toList) = isoForm? (strip "2024-01-15".toList) := by
    decide +kernel
  exact ((dates_canonical_iff (fun _ => false) dateSchema dateSchema_accepted).1 dateQuestion hquestion rfl _ _ _ _
    738900 hpadded hplain hday hday').mpr hform

end Simulation

end SheepContabil.SC06
