import SheepContabil.Proof.Sc06Answers

/-!
# SC-06: the married partner

The married partner must be one of the declared ones. `_is_partner_declared` also takes a name that
is a part of the declared text and an item that is a part of the name.

* `Declared`: an item is the name, or has all its words.
* `undeclared_iff`: when the check lets a completion pass.
* `partner_iff`: it lets only declared partners pass exactly when no such part does.
-/

namespace SheepContabil.SC06

section Matching

variable (u : Unicode) (married partners : Text)

/-- The married name, as it is compared. -/
def marriedName : Text := u.lower (strip married)

/-- The items of the list, without their documents. -/
def cleanItems : List Text := (declaredItems (u.lower (strip partners))).map (cleanItem u)

/-- Some item is the married name, or has all its words as whole words. -/
def Declared : Prop :=
  ∃ item ∈ cleanItems u partners,
    item = marriedName u married ∨ hasAllWords u (marriedName u married) item = true

/-- One text is a part of the other, with no regard to words. -/
def PartOnly : Prop :=
  occursIn (marriedName u married) (u.lower (strip partners)) = true ∨
    ∃ item ∈ cleanItems u partners,
      occursIn (marriedName u married) item = true ∨ occursIn item (marriedName u married) = true

variable {u married partners}

theorem ne_nil_of_strip {t : Text} (h : strip t ≠ []) : t ≠ [] := by
  rintro rfl
  exact h strip_nil

/-- **What `_is_partner_declared` takes**: a declared partner, or a text that is a part of another. -/
theorem isPartnerDeclared_iff (hmarried : strip married ≠ []) (hpartners : strip partners ≠ []) :
    isPartnerDeclared u married partners = true ↔
      Declared u married partners ∨ PartOnly u married partners := by
  unfold isPartnerDeclared
  rw [if_neg (not_or.mpr ⟨ne_nil_of_strip hmarried, ne_nil_of_strip hpartners⟩)]
  simp only [Bool.or_eq_true, List.any_eq_true, matchesItem, beq_iff_eq]
  unfold Declared PartOnly cleanItems
  simp only [List.mem_map, exists_exists_and_eq_and]
  constructor
  · rintro (hlist | ⟨item, hitem, ((hsame | hin) | hpart) | hwords⟩)
    · exact .inr (.inl hlist)
    · exact .inl ⟨item, hitem, .inl hsame.symm⟩
    · exact .inr (.inr ⟨item, hitem, .inl hin⟩)
    · exact .inr (.inr ⟨item, hitem, .inr hpart⟩)
    · exact .inl ⟨item, hitem, .inr hwords⟩
  · rintro (⟨item, hitem, hsame | hwords⟩ | hlist | ⟨item, hitem, hin | hpart⟩)
    · exact .inr ⟨item, hitem, .inl (.inl (.inl hsame.symm))⟩
    · exact .inr ⟨item, hitem, .inr hwords⟩
    · exact .inl hlist
    · exact .inr ⟨item, hitem, .inl (.inl (.inr hin))⟩
    · exact .inr ⟨item, hitem, .inl (.inr hpart)⟩

/-- An item that is only a document is a part of every name. -/
theorem partOnly_of_document (h : [] ∈ cleanItems u partners) : PartOnly u married partners := by
  refine .inr ⟨[], h, .inr ?_⟩
  simp [occursIn]

end Matching

section Completion

variable {validators : Validators} {u : Unicode} {schema : Schema}
  {answers : QuestionId → Option RawAnswer} {married partners : Text}

/-- The answers that the partner check looks at: a married partner is declared, and both names are
given. -/
structure GivenNames (stored : List (QuestionId × Answer)) (married partners : Text) : Prop where
  hasMarried : stored.lookup "has_married_partner".toList = some (.bool true)
  marriedName : stored.lookup "married_partner_name".toList = some (.text married)
  partnerNames : stored.lookup "partner_names".toList = some (.text partners)
  marriedGiven : strip married ≠ []
  partnersGiven : strip partners ≠ []

theorem undeclared_iff {stored : List (QuestionId × Answer)} (h : GivenNames stored married partners) :
    undeclaredPartner u stored = none ↔ isPartnerDeclared u married partners = true := by
  unfold undeclaredPartner
  rw [if_pos h.hasMarried, h.marriedName, h.partnerNames]
  dsimp only
  cases isPartnerDeclared u married partners with
  | true => simp
  | false => simpa using ⟨h.marriedGiven, h.partnersGiven⟩

/-- A completion passes when the answers are valid and the partner check takes the name. -/
theorem completed_iff (h : GivenNames (sanitize validators answers true schema).sanitized married
    partners) {stored : List (QuestionId × Answer)} :
    sanitizeAnswers validators u answers true schema = .ok stored ↔
      stored = (sanitize validators answers true schema).sanitized ∧
        (sanitize validators answers true schema).errors = [] ∧
        (Declared u married partners ∨ PartOnly u married partners) := by
  have hnil : (sanitize validators answers true schema).allErrors u true = [] ↔
      (sanitize validators answers true schema).errors = [] ∧
        (Declared u married partners ∨ PartOnly u married partners) := by
    rw [allErrors_nil, unmatchedPartner, if_pos rfl, undeclared_iff h,
      isPartnerDeclared_iff h.marriedGiven h.partnersGiven]
  unfold sanitizeAnswers
  dsimp only
  split
  · next hempty =>
    rw [Except.ok.injEq]
    exact ⟨fun heq => ⟨heq.symm, hnil.mp hempty⟩, fun heq => heq.1.symm⟩
  · next hne =>
    exact ⟨fun herror => (nomatch herror), fun hpass => absurd (hnil.mpr hpass.2) hne⟩

/-- **A completion lets only declared partners pass exactly when, for a partner who is not declared,
neither the name is a part of the list nor an item of the list is a part of the name.** An item that
is only a document lets every name pass. -/
theorem partner_iff (validators : Validators) (u : Unicode) (schema : Schema)
    (answers : QuestionId → Option RawAnswer) (married partners : Text)
    (hnames : GivenNames (sanitize validators answers true schema).sanitized married partners) :
    ((∀ stored, sanitizeAnswers validators u answers true schema = .ok stored →
        Declared u married partners) ↔
      ((sanitize validators answers true schema).errors = [] → ¬ Declared u married partners →
        ¬ PartOnly u married partners)) ∧
    ([] ∈ cleanItems u partners → (sanitize validators answers true schema).errors = [] →
      sanitizeAnswers validators u answers true schema =
        .ok (sanitize validators answers true schema).sanitized) := by
  refine ⟨⟨?_, ?_⟩, ?_⟩
  · intro hsound hvalid hundeclared hpart
    exact hundeclared (hsound _ ((completed_iff hnames).mpr ⟨rfl, hvalid, .inr hpart⟩))
  · intro hcondition stored hok
    obtain ⟨-, hvalid, hpass⟩ := (completed_iff hnames).mp hok
    by_contra hundeclared
    exact hcondition hvalid hundeclared (hpass.resolve_left hundeclared)
  · intro hdocument hvalid
    exact (completed_iff hnames).mpr ⟨rfl, hvalid, .inr (partOnly_of_document hdocument)⟩

end Completion

section Simulation

def partnersFormSchema : Schema where
  title := "Abertura".toList
  sections :=
    [{ id := "dados".toList, title := "Dados".toList
       questions :=
        [{ id := "partner_names".toList, label := "Sócios".toList, type := .textarea, required := true },
          { id := "has_married_partner".toList, label := "Há sócio casado?".toList, type := .boolean },
          { id := "married_partner_name".toList, label := "Sócio casado".toList, type := .text }] }]

/-- A request that declares these partners and this married one. -/
def declaring (partners married : String) : QuestionId → Option RawAnswer := fun i =>
  if i = "partner_names".toList then some (.text partners.toList)
  else if i = "has_married_partner".toList then some (.bool true)
  else if i = "married_partner_name".toList then some (.text married.toList)
  else none

/-- **`Ana` is taken for a partner among `Mariana Silva`, and among a document without a name.** -/
theorem undeclared_partner_passes :
    partnersFormSchema.accepted anyValidators = true ∧
      (sanitizeAnswers anyValidators asciiUnicode (declaring "Mariana Silva" "Ana") true
        partnersFormSchema).toOption.isSome = true ∧
      ¬ Declared asciiUnicode "Ana".toList "Mariana Silva".toList ∧
      (sanitizeAnswers anyValidators asciiUnicode (declaring "- 123.456.789-00" "Ana") true
        partnersFormSchema).toOption.isSome = true ∧
      ¬ Declared asciiUnicode "Ana".toList "- 123.456.789-00".toList := by
  have hmariana : ∀ item ∈ cleanItems asciiUnicode "Mariana Silva".toList,
      item ≠ marriedName asciiUnicode "Ana".toList ∧
        hasAllWords asciiUnicode (marriedName asciiUnicode "Ana".toList) item = false := by
    decide +kernel
  have hdocument : ∀ item ∈ cleanItems asciiUnicode "- 123.456.789-00".toList,
      item ≠ marriedName asciiUnicode "Ana".toList ∧
        hasAllWords asciiUnicode (marriedName asciiUnicode "Ana".toList) item = false := by
    decide +kernel
  refine ⟨by decide +kernel, by decide +kernel, ?_, by decide +kernel, ?_⟩
  · rintro ⟨item, hitem, hsame | hwords⟩
    · exact (hmariana item hitem).1 hsame
    · rw [(hmariana item hitem).2] at hwords
      cases hwords
  · rintro ⟨item, hitem, hsame | hwords⟩
    · exact (hdocument item hitem).1 hsame
    · rw [(hdocument item hitem).2] at hwords
      cases hwords

/-- A declared partner passes, and as a declared one. -/
theorem partner_sim :
    (∃ stored, sanitizeAnswers anyValidators asciiUnicode
        (declaring "Ana Souza - 123.456.789-00; Mariana" "Ana Souza") true partnersFormSchema =
      .ok stored) ∧
    Declared asciiUnicode "Ana Souza".toList "Ana Souza - 123.456.789-00; Mariana".toList := by
  have hdeclared := (partner_iff anyValidators asciiUnicode partnersFormSchema
    (declaring "Ana Souza - 123.456.789-00; Mariana" "Ana Souza") "Ana Souza".toList
    "Ana Souza - 123.456.789-00; Mariana".toList
    ⟨by decide +kernel, by decide +kernel, by decide +kernel, by decide +kernel, by decide +kernel⟩).1.mpr
      fun _ hundeclared => absurd
        (show Declared asciiUnicode "Ana Souza".toList
            "Ana Souza - 123.456.789-00; Mariana".toList from
          ⟨"ana souza".toList, by decide +kernel, .inl (by decide +kernel)⟩) hundeclared
  have hstored : sanitizeAnswers anyValidators asciiUnicode
      (declaring "Ana Souza - 123.456.789-00; Mariana" "Ana Souza") true partnersFormSchema =
        .ok [("partner_names".toList, .text "Ana Souza - 123.456.789-00; Mariana".toList),
          ("has_married_partner".toList, .bool true),
          ("married_partner_name".toList, .text "Ana Souza".toList)] := by rfl
  exact ⟨⟨_, hstored⟩, hdeclared _ hstored⟩

end Simulation

end SheepContabil.SC06
