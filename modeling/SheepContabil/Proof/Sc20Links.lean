import SheepContabil.Spec.Sc20Links
import SheepContabil.Proof.Sc20Phone

/-!
# SC-20: what a reader takes from the links of a certificate

* `mailtoUrl_parts`, `whatsappLink_parts`: the links, taken apart at their marks.
* `links_read`: **the notice comes back** from both links, whatever the certificate holds; the
  address comes back exactly when it holds no mark and no escape, and the chat dials the digits of a
  stored phone.
-/

namespace SheepContabil

open Py
open SC06 (Text strip)

namespace CertificateCard

section Notices

variable {c : CertificateCard} {today : ℕ} {overridden : Bool}

theorem intercalate_ne_nil {l sep : List Char} {ls : List (List Char)} (hl : l ∈ ls) (hne : l ≠ []) :
    sep.intercalate ls ≠ [] := by
  induction ls with
  | nil => cases hl
  | cons x ls ih =>
    cases ls with
    | nil =>
      rw [List.mem_singleton] at hl
      subst hl
      rwa [List.intercalate_singleton]
    | cons y ls =>
      rw [List.intercalate_cons_cons]
      intro h
      rw [List.append_eq_nil_iff, List.append_eq_nil_iff] at h
      rcases List.mem_cons.1 hl with rfl | hl
      · exact hne h.1.1
      · exact ih hl h.2

theorem mailSubject_ne_nil : c.mailSubject ≠ [] := by
  intro h
  exact absurd (String.toList_eq_nil_iff.1 (List.append_eq_nil_iff.1 h).1) (by decide +kernel)

theorem renewal_ne_nil : renewal ≠ [] := by decide +kernel

theorem mailBody_ne_nil : c.mailBody overridden today ≠ [] := by
  unfold mailBody
  refine intercalate_ne_nil (List.mem_append.2 (.inr ?_)) renewal_ne_nil
  exact List.mem_cons_of_mem _ (List.mem_cons_of_mem _ List.mem_cons_self)

theorem whatsappMessage_ne_nil : c.whatsappMessage overridden today ≠ [] := by
  unfold whatsappMessage
  refine intercalate_ne_nil (List.mem_append.2 (.inr ?_)) renewal_ne_nil
  exact List.mem_cons_of_mem _ (List.mem_cons_of_mem _ List.mem_cons_self)

end Notices

section Reading

variable {safe : Char → Bool} {name value t : Text}

/-- A quoted text holds no mark of a link or a query. -/
structure Markless (t : Text) : Prop where
  amp : '&' ∉ t
  equals : '=' ∉ t
  marks : ∀ c ∈ t, isLinkBreak c = false ∧ c ≠ '?' ∧ c ≠ '#'

/-- The marks of a link and of a query. -/
def linkMarks : List Char := ['&', '=', '?', '#', '\t', '\n', '\r']

/-- A text of characters of a class without marks. -/
theorem Markless.of_class {p : Char → Bool} (hp : linkMarks.all (fun c => !p c) = true)
    (h : ∀ c ∈ t, p c = true) : Markless t := by
  have hmark : ∀ c ∈ linkMarks, c ∉ t := by
    intro c hc hmem
    have hnot := List.all_eq_true.1 hp c hc
    rw [h c hmem] at hnot
    cases hnot
  refine ⟨hmark _ (by simp [linkMarks]), hmark _ (by simp [linkMarks]), fun c hc => ⟨?_, ?_, ?_⟩⟩
  · by_contra hbreak
    rw [Bool.not_eq_false, isLinkBreak, Bool.or_eq_true, Bool.or_eq_true, beq_iff_eq, beq_iff_eq,
      beq_iff_eq] at hbreak
    exact hmark c (by rcases hbreak with (rfl | rfl) | rfl <;> simp [linkMarks]) hc
  · rintro rfl
    exact hmark _ (by simp [linkMarks]) hc
  · rintro rfl
    exact hmark _ (by simp [linkMarks]) hc

theorem markless_quote (hsafe : ∀ c, safe c = true → c = '/') (t : Text) :
    Markless (quote safe t) := by
  have hclass : linkMarks.all (fun c => !(c == '%' || isUnreserved c || c == '/')) = true := by
    decide +kernel
  refine Markless.of_class hclass fun c hc => ?_
  rw [Bool.or_eq_true, Bool.or_eq_true, beq_iff_eq, beq_iff_eq]
  rcases mem_quoteBytes hc with heq | hunreserved | hslash
  · exact .inl (.inl heq)
  · exact .inl (.inr hunreserved)
  · exact .inr (hsafe c hslash)

/-- A query of markless items goes through a link. -/
theorem query_marks {items : List (Text × Text)} (h : ∀ p ∈ items, Markless p.1 ∧ Markless p.2) :
    ∀ c ∈ joinQuery items, isLinkBreak c = false ∧ c ≠ '#' := by
  intro c hc
  rcases mem_joinQuery hc with rfl | rfl | ⟨p, hp, hc | hc⟩
  · exact ⟨rfl, by decide⟩
  · exact ⟨rfl, by decide⟩
  · have hmarks := (h p hp).1.marks c hc
    exact ⟨hmarks.1, hmarks.2.2⟩
  · have hmarks := (h p hp).2.marks c hc
    exact ⟨hmarks.1, hmarks.2.2⟩

/-- A link with a query of markless items, taken apart and read. -/
theorem link_read {base name₁ value₁ name₂ value₂ a b x y : Text} {decode : Text → Option Text}
    (hbase : ∀ c ∈ base, c ≠ '?' ∧ c ≠ '#')
    (hname₁ : Markless name₁) (hvalue₁ : Markless value₁) (hname₂ : Markless name₂)
    (hvalue₂ : Markless value₂) (hne₁ : value₁ ≠ []) (hne₂ : value₂ ≠ [])
    (ha : decode name₁ = some a) (hx : decode value₁ = some x) (hb : decode name₂ = some b)
    (hy : decode value₂ = some y) :
    ∃ query, linkParts (base ++ '?' :: joinQuery [(name₁, value₁), (name₂, value₂)]) =
      (base.filter fun c => !isLinkBreak c, query) ∧
      queryPairs decode query = some [(a, x), (b, y)] := by
  have hmarkless : ∀ p ∈ [(name₁, value₁), (name₂, value₂)], Markless p.1 ∧ Markless p.2 := by
    intro p hp
    rcases List.mem_cons.1 hp with rfl | hp
    · exact ⟨hname₁, hvalue₁⟩
    · rw [List.mem_singleton.1 hp]
      exact ⟨hname₂, hvalue₂⟩
  have hvalues : ∀ p ∈ [(name₁, value₁), (name₂, value₂)], '&' ∉ p.2 ∧ p.2 ≠ [] := by
    intro p hp
    refine ⟨(hmarkless p hp).2.amp, ?_⟩
    rcases List.mem_cons.1 hp with rfl | hp
    · exact hne₁
    · rw [List.mem_singleton.1 hp]
      exact hne₂
  refine ⟨_, linkParts_join hbase (query_marks hmarkless), ?_⟩
  rw [queryPairs_joinQuery (fun p hp => ⟨(hmarkless p hp).1.amp, (hmarkless p hp).1.equals⟩) hvalues
    (List.cons_ne_nil _ _)]
  simp [decodeItem, ha, hx, hb, hy]

end Reading

section Links

variable {c : CertificateCard} {today : ℕ} {overridden : Bool} {target : Text}

/-- The links quote with these. -/
theorem unquoted_none : ∀ c : Char, (fun _ => false) c = true → c = '/' := fun _ h => by cases h

theorem unquoted_slash : ∀ c : Char, (c == '/') = true → c = '/' := fun _ h => beq_iff_eq.1 h

theorem markless_of_isDecimal (h : ∀ c ∈ target, isDecimal c = true) : Markless target :=
  Markless.of_class (by decide +kernel) h

/-- The name of a field of a query. -/
theorem markless_name (h : target.all isUnreserved = true) : Markless target :=
  Markless.of_class (by decide +kernel) (List.all_eq_true.1 h)

theorem base_marks (h : target.all (fun c => c != '?' && c != '#') = true) :
    ∀ c ∈ target, c ≠ '?' ∧ c ≠ '#' := by
  intro c hc
  have hmarks := List.all_eq_true.1 h c hc
  rwa [Bool.and_eq_true, bne_iff_ne, bne_iff_ne] at hmarks

/-- The address of a mail is read back exactly when the link carries it as it is. -/
theorem unquote_address_iff (target : Text) :
    unquote ((target.filter fun c => !isLinkBreak c).takeWhile fun c => c != '?' && c != '#') =
      some target ↔ PlainInLink target := by
  constructor
  · intro h
    have hsub := (List.takeWhile_sublist fun c => c != '?' && c != '#').trans
      (List.filter_sublist (p := fun c => !isLinkBreak c) (l := target))
    have hwhole := eq_of_unquote_sublist hsub h
    refine ⟨fun c hc => ?_, ?_⟩
    · rw [← hwhole] at hc
      have hmarks := List.mem_takeWhile_imp hc
      have hkept := (List.mem_filter.1 ((List.takeWhile_sublist _).mem hc)).2
      rw [Bool.and_eq_true, bne_iff_ne, bne_iff_ne] at hmarks
      exact ⟨by simpa using hkept, hmarks⟩
    · rw [hwhole] at h
      exact unquote_self_iff.1 h
  · intro h
    have hfilter : (target.filter fun c => !isLinkBreak c) = target :=
      List.filter_eq_self.2 fun c hc => by rw [(h.marks c hc).1, Bool.not_false]
    have htake : (target.takeWhile fun c => c != '?' && c != '#') = target :=
      List.takeWhile_eq_self_iff.2 fun c hc => by
        rw [Bool.and_eq_true, bne_iff_ne, bne_iff_ne]
        exact (h.marks c hc).2
    rw [hfilter, htake]
    exact unquote_self_iff.2 h.escapes

/-- The mail, read. -/
theorem mailtoUrl_read (overrideEmail : Option Text) (configured : Text)
    (htarget : c.mailTarget overrideEmail configured ≠ []) :
    ∃ address query,
      linkParts (c.mailtoUrl overrideEmail configured today) = ("mailto:".toList ++ address, query) ∧
      (unquote address = some (c.mailTarget overrideEmail configured) ↔
        PlainInLink (c.mailTarget overrideEmail configured)) ∧
      ((∀ ch ∈ c.mailTarget overrideEmail configured, ch ≠ '?' ∧ ch ≠ '#') →
        queryPairs unquote query = some [("subject".toList, c.mailSubject), ("body".toList,
          c.mailBody (!(strip (overrideEmail.getD configured)).isEmpty) today)]) := by
  rw [mailtoUrl, if_neg (by simpa using htarget)]
  generalize c.mailTarget overrideEmail configured = target at htarget ⊢
  have hbase : ("mailto:".toList ++ target).filter (fun c => !isLinkBreak c) =
      "mailto:".toList ++ target.filter fun c => !isLinkBreak c := by
    rw [List.filter_append]
    rfl
  have hscheme : ∀ c ∈ "mailto:".toList, c ≠ '?' ∧ c ≠ '#' := base_marks (by decide +kernel)
  refine ⟨(target.filter fun c => !isLinkBreak c).takeWhile fun c => c != '?' && c != '#', _,
    Prod.ext ?_ rfl, unquote_address_iff target, fun hmarks => ?_⟩
  · rw [linkParts_base, hbase, List.takeWhile_append_of_pos]
    intro c hc
    rw [Bool.and_eq_true, bne_iff_ne, bne_iff_ne]
    exact hscheme c hc
  · have hquoted : ∀ t, Markless (quote (fun _ => false) t) := markless_quote unquoted_none
    have hall : ∀ c ∈ "mailto:".toList ++ target, c ≠ '?' ∧ c ≠ '#' := fun c hc =>
      (List.mem_append.1 hc).elim (hscheme c) (hmarks c)
    obtain ⟨query, hparts, hpairs⟩ := link_read hall
      (hquoted _) (hquoted _) (hquoted _) (hquoted _)
      (quote_ne_nil mailSubject_ne_nil) (quote_ne_nil mailBody_ne_nil)
      (unquote_quote rfl _) (unquote_quote rfl _) (unquote_quote rfl _) (unquote_quote rfl _)
    rw [hparts]
    exact hpairs

theorem isDecimal_dialedDigits : ∀ ch ∈ dialedDigits target, isDecimal ch = true := by
  intro ch hch
  unfold dialedDigits at hch
  dsimp only at hch
  split at hch
  · rcases List.mem_append.1 hch with hch | hch
    · exact isDecimal_of_code brazil brazil_mem ch hch
    · exact isDecimal_of_mem_onlyDecimals ch hch
  · exact isDecimal_of_mem_onlyDecimals ch hch

theorem dialedDigits_eq_nil : dialedDigits target = [] ↔ onlyDecimals target = [] := by
  unfold dialedDigits
  dsimp only
  split
  · next h =>
    have hsome : onlyDecimals target ≠ [] := by
      intro hnone
      rw [hnone] at h
      exact absurd h (by simp)
    exact ⟨fun h => absurd h (by simp [brazil]), fun h => absurd h hsome⟩
  · rfl

/-- The link of the chat, by its parts. -/
theorem whatsappLink_parts (overridePhone : Option Text) (configured : Text) :
    c.whatsappLink overridePhone configured today =
      if onlyDecimals (c.chatTarget overridePhone configured) = [] then []
      else "https://api.whatsapp.com/send".toList ++ '?' ::
        joinQuery [("phone".toList, dialedDigits (c.chatTarget overridePhone configured)),
          ("text".toList, quote (· == '/')
            (c.whatsappMessage (!(strip (overridePhone.getD configured)).isEmpty) today))] := by
  have htarget : (if !(strip (overridePhone.getD configured)).isEmpty then
      strip (overridePhone.getD configured) else c.contactPhone) =
      c.chatTarget overridePhone configured := by
    rw [chatTarget]
    cases (strip (overridePhone.getD configured)).isEmpty <;> rfl
  have hphone : "https://api.whatsapp.com/send?phone=".toList =
      "https://api.whatsapp.com/send".toList ++ '?' :: ("phone".toList ++ ['=']) := by decide +kernel
  have htext : "&text=".toList = '&' :: ("text".toList ++ ['=']) := by decide +kernel
  rw [whatsappLink]
  unfold whatsappUrl
  dsimp only
  rw [htarget, hphone, htext, joinQuery_two]
  by_cases hnone : onlyDecimals (c.chatTarget overridePhone configured) = []
  · rw [hnone, if_pos List.isEmpty_nil, if_pos rfl]
  · rw [if_neg (by simpa using hnone), if_neg hnone, dialedDigits]
    simp only [List.append_assoc, List.cons_append, List.nil_append]

/-- The chat, read. -/
theorem whatsappLink_read (overridePhone : Option Text) (configured : Text)
    (htarget : onlyDecimals (c.chatTarget overridePhone configured) ≠ []) :
    ∃ query,
      linkParts (c.whatsappLink overridePhone configured today) =
        ("https://api.whatsapp.com/send".toList, query) ∧
      queryPairs unquotePlus query =
        some [("phone".toList, dialedDigits (c.chatTarget overridePhone configured)),
          ("text".toList,
            c.whatsappMessage (!(strip (overridePhone.getD configured)).isEmpty) today)] := by
  rw [whatsappLink_parts, if_neg htarget]
  have hdecimal : ∀ ch ∈ dialedDigits (c.chatTarget overridePhone configured),
      isDecimal ch = true := isDecimal_dialedDigits
  have hne : dialedDigits (c.chatTarget overridePhone configured) ≠ [] := fun h =>
    htarget (dialedDigits_eq_nil.1 h)
  generalize dialedDigits (c.chatTarget overridePhone configured) = digits at hdecimal hne ⊢
  have hdigit : ∀ ch, isDecimal ch = false → ch ∉ digits := fun ch hch hmem => by
    rw [hdecimal ch hmem] at hch
    cases hch
  have hphone : unquotePlus digits = some digits := by
    rw [unquotePlus_of_not_mem (hdigit _ (by decide +kernel)),
      unquote_of_not_mem (hdigit _ (by decide +kernel))]
  have htext : ∀ t, unquotePlus (quote (· == '/') t) = some t := fun t => by
    rw [unquotePlus_of_not_mem (not_mem_quote (by decide) (by decide) (by decide) t),
      unquote_quote (by decide)]
  have hplain : ∀ name : Text, '%' ∉ name → '+' ∉ name → unquotePlus name = some name :=
    fun name hpercent hplus => by
      rw [unquotePlus_of_not_mem hplus, unquote_of_not_mem hpercent]
  have hbase : ∀ ch ∈ "https://api.whatsapp.com/send".toList, ch ≠ '?' ∧ ch ≠ '#' :=
    base_marks (by decide +kernel)
  obtain ⟨query, hparts, hpairs⟩ := link_read hbase
    (markless_name (by decide +kernel)) (markless_of_isDecimal hdecimal)
    (markless_name (by decide +kernel)) (markless_quote unquoted_slash _)
    hne (quote_ne_nil whatsappMessage_ne_nil)
    (hplain "phone".toList (by decide +kernel) (by decide +kernel)) hphone
    (hplain "text".toList (by decide +kernel) (by decide +kernel)) (htext _)
  refine ⟨query, hparts.trans ?_, hpairs⟩
  have hkept : ("https://api.whatsapp.com/send".toList.filter fun c => !isLinkBreak c) =
      "https://api.whatsapp.com/send".toList := by decide +kernel
  rw [hkept]

/-- The chat of a stored phone dials its digits. -/
theorem dialedDigits_stored {country : Text} (h : NormalPhone country c.contactPhone)
    {overridePhone : Option Text} {configured : Text}
    (hoverride : strip (overridePhone.getD configured) = []) :
    dialedDigits (c.chatTarget overridePhone configured) = onlyDecimals c.contactPhone := by
  have hplus : ['+'].isPrefixOf c.contactPhone = true := by
    have hstart := h.start
    cases hphone : c.contactPhone with
    | nil =>
      rw [hphone] at hstart
      cases hstart
    | cons ch rest =>
      rw [hphone, List.take_succ_cons, List.cons.injEq] at hstart
      rw [hstart.1]
      rfl
  have htarget : c.chatTarget overridePhone configured = c.contactPhone := by
    rw [chatTarget, hoverride]
    rfl
  rw [htarget, dialedDigits, h.stripped, hplus, Bool.not_true, Bool.false_and, if_neg Bool.false_ne_true]

/-- **The links of a certificate, read.** Whatever the certificate holds and whatever the override
is, the link of the mail is empty exactly without an address; its reader gets the subject and the
body, character by character, unless the address holds a mark, and the address exactly when it holds
no mark and no escape. The link of the chat is empty exactly without a digit; its reader gets the
message, character by character, and the digits that it dials, those of the stored phone when the
form has accepted it and there is no override. -/
theorem links_read (c : CertificateCard) (override : Option Text) (configured : Text) (today : ℕ) :
    let overridden := !(strip (override.getD configured)).isEmpty
    let address := c.mailTarget override configured
    let phone := c.chatTarget override configured
    (c.mailtoUrl override configured today = [] ↔ address = []) ∧
    (address ≠ [] → ∃ written query,
      linkParts (c.mailtoUrl override configured today) = ("mailto:".toList ++ written, query) ∧
      (unquote written = some address ↔ PlainInLink address) ∧
      ((∀ ch ∈ address, ch ≠ '?' ∧ ch ≠ '#') →
        queryPairs unquote query = some [("subject".toList, c.mailSubject),
          ("body".toList, c.mailBody overridden today)])) ∧
    (c.whatsappLink override configured today = [] ↔ onlyDecimals phone = []) ∧
    (onlyDecimals phone ≠ [] → ∃ query,
      linkParts (c.whatsappLink override configured today) =
        ("https://api.whatsapp.com/send".toList, query) ∧
      queryPairs unquotePlus query = some [("phone".toList, dialedDigits phone),
        ("text".toList, c.whatsappMessage overridden today)]) ∧
    (overridden = false → c.contactPhone ≠ [] → ∀ country requested value,
      cleanContactPhone country requested value = .ok c.contactPhone →
      dialedDigits phone = onlyDecimals c.contactPhone) := by
  intro overridden address phone
  refine ⟨?_, mailtoUrl_read override configured, ?_, whatsappLink_read override configured,
    fun hoverride hne country requested value h => ?_⟩
  · rw [mailtoUrl]
    by_cases hnone : c.mailTarget override configured = []
    · rw [hnone, if_pos List.isEmpty_nil]
      exact ⟨fun _ => hnone, fun _ => rfl⟩
    · rw [if_neg (by simpa using hnone)]
      exact ⟨fun h => absurd h (by simp), fun h => absurd h hnone⟩
  · rw [whatsappLink_parts]
    by_cases hnone : onlyDecimals (c.chatTarget override configured) = []
    · rw [if_pos hnone]
      exact ⟨fun _ => hnone, fun _ => rfl⟩
    · rw [if_neg hnone]
      exact ⟨fun h => absurd h (by simp), fun h => absurd h hnone⟩
  · refine dialedDigits_stored (cleanContactPhone_ok h hne) ?_
    simpa [overridden] using hoverride

end Links

end CertificateCard

end SheepContabil
