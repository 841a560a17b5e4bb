import Mathlib.Data.List.Flatten
import Mathlib.Data.List.TakeWhile
import Mathlib.Data.Option.Basic

/-!
# Percent encoding and queries

What `urllib.parse` writes into a link and what a reader of the link takes from it.

* `unquoteToBytes_quoteBytes`: the bytes of a quoted text come back.
* `queryPairs_urlencode`: so do the pairs of a query, whatever encoding keeps `&` and `=` out of them.
-/

namespace Py

section Quote

/-- The characters that `quote` never escapes. -/
def isUnreserved (c : Char) : Bool :=
  c.isAlphanum || c == '_' || c == '.' || c == '-' || c == '~'

/-- A hexadecimal digit, as `%X` writes it. -/
def hexDigit (n : ℕ) : Char := Char.ofNat (if n < 10 then 48 + n else 55 + n)

/-- The value of a hexadecimal digit in either case. -/
def hexValue? (c : Char) : Option ℕ :=
  if '0' ≤ c ∧ c ≤ '9' then some (c.toNat - 48)
  else if 'A' ≤ c ∧ c ≤ 'F' then some (c.toNat - 55)
  else if 'a' ≤ c ∧ c ≤ 'f' then some (c.toNat - 87)
  else none

/-- A byte of `quote_from_bytes`. -/
def quoteByte (safe : Char → Bool) (b : UInt8) : List Char :=
  if b.toNat < 128 ∧ (isUnreserved (Char.ofNat b.toNat) || safe (Char.ofNat b.toNat)) = true then
    [Char.ofNat b.toNat]
  else ['%', hexDigit (b.toNat / 16), hexDigit (b.toNat % 16)]

/-- `quote_from_bytes`. -/
def quoteBytes (safe : Char → Bool) (bytes : List UInt8) : List Char :=
  bytes.flatMap (quoteByte safe)

/-- The byte of two hexadecimal digits. -/
def escapedByte? (a b : Char) : Option UInt8 :=
  (hexValue? a).bind fun x => (hexValue? b).map fun y => UInt8.ofNat (16 * x + y)

/-- `unquote_to_bytes`: an escape is its byte, and any other character its bytes in UTF-8. -/
def unquoteToBytes : List Char → List UInt8
  | [] => []
  | [c] => String.utf8EncodeChar c
  | [c, d] => String.utf8EncodeChar c ++ String.utf8EncodeChar d
  | c :: a :: b :: rest =>
    match if c = '%' then escapedByte? a b else none with
    | some byte => byte :: unquoteToBytes rest
    | none => String.utf8EncodeChar c ++ unquoteToBytes (a :: b :: rest)

variable {safe : Char → Bool} {bytes : List UInt8} {c : Char} {s t : List Char}

theorem unquoteToBytes_cons (h : c ≠ '%') (rest : List Char) :
    unquoteToBytes (c :: rest) = String.utf8EncodeChar c ++ unquoteToBytes rest := by
  cases rest with
  | nil => simp [unquoteToBytes]
  | cons a rest =>
    cases rest with
    | nil => rfl
    | cons b rest => rw [unquoteToBytes, if_neg h]

theorem unquoteToBytes_percent (a b : Char) (rest : List Char) :
    unquoteToBytes ('%' :: a :: b :: rest) =
      match escapedByte? a b with
      | some byte => byte :: unquoteToBytes rest
      | none => String.utf8EncodeChar '%' ++ unquoteToBytes (a :: b :: rest) := by
  rw [unquoteToBytes, if_pos rfl]

theorem hexValue?_hexDigit : ∀ n < 16, hexValue? (hexDigit n) = some n := by decide

theorem isUnreserved_hexDigit : ∀ n < 16, isUnreserved (hexDigit n) = true := by decide

theorem utf8EncodeChar_ascii : ∀ n < 128,
    String.utf8EncodeChar (Char.ofNat n) = [UInt8.ofNat n] := by decide +kernel

theorem escapedByte?_hexDigit (b : UInt8) :
    escapedByte? (hexDigit (b.toNat / 16)) (hexDigit (b.toNat % 16)) = some b := by
  have hlt := UInt8.toNat_lt b
  rw [escapedByte?, hexValue?_hexDigit _ (by omega), hexValue?_hexDigit _ (by omega),
    Option.bind_some, Option.map_some, Nat.div_add_mod, UInt8.ofNat_toNat]

/-- A quoted byte comes back. -/
theorem unquoteToBytes_quoteByte (hsafe : safe '%' = false) (b : UInt8) (rest : List Char) :
    unquoteToBytes (quoteByte safe b ++ rest) = b :: unquoteToBytes rest := by
  unfold quoteByte
  split
  · next h =>
    have hne : Char.ofNat b.toNat ≠ '%' := by
      intro heq
      rw [heq, hsafe] at h
      exact absurd h.2 (by decide)
    rw [List.singleton_append, unquoteToBytes_cons hne, utf8EncodeChar_ascii _ h.1,
      UInt8.ofNat_toNat, List.singleton_append]
  · rw [List.cons_append, List.cons_append, List.cons_append, List.nil_append,
      unquoteToBytes_percent, escapedByte?_hexDigit]

/-- **Quoted bytes come back.** -/
theorem unquoteToBytes_quoteBytes (hsafe : safe '%' = false) (bytes : List UInt8) :
    unquoteToBytes (quoteBytes safe bytes) = bytes := by
  induction bytes with
  | nil => rfl
  | cons b bytes ih =>
    rw [quoteBytes, List.flatMap_cons, unquoteToBytes_quoteByte hsafe]
    rw [quoteBytes] at ih
    rw [ih]

/-- What a quoted text is made of. -/
theorem mem_quoteBytes (h : c ∈ quoteBytes safe bytes) :
    c = '%' ∨ isUnreserved c = true ∨ safe c = true := by
  obtain ⟨b, -, hc⟩ := List.mem_flatMap.1 h
  have hlt := UInt8.toNat_lt b
  unfold quoteByte at hc
  split at hc
  · next hplain =>
    rw [List.mem_singleton.1 hc]
    exact .inr (by simpa using hplain.2)
  · rcases List.mem_cons.1 hc with rfl | hc
    · exact .inl rfl
    · rcases List.mem_cons.1 hc with rfl | hc
      · exact .inr (.inl (isUnreserved_hexDigit _ (by omega)))
      · rw [List.mem_singleton.1 hc]
        exact .inr (.inl (isUnreserved_hexDigit _ (by omega)))

theorem quoteBytes_ne_nil (h : bytes ≠ []) : quoteBytes safe bytes ≠ [] := by
  cases bytes with
  | nil => exact absurd rfl h
  | cons b bytes =>
    rw [quoteBytes, List.flatMap_cons]
    unfold quoteByte
    split <;> exact List.cons_ne_nil _ _

theorem length_utf8EncodeChar_pos (c : Char) : 0 < (String.utf8EncodeChar c).length := by
  rw [String.length_utf8EncodeChar]
  exact Char.utf8Size_pos c

/-- Unquoting never makes a text longer. -/
theorem length_unquoteToBytes_le (s : List Char) :
    (unquoteToBytes s).length ≤ (s.flatMap String.utf8EncodeChar).length := by
  induction s using unquoteToBytes.induct with
  | case1 => exact Nat.le_refl _
  | case2 c => simp [unquoteToBytes]
  | case3 c d => simp [unquoteToBytes]
  | case4 c a b rest byte h ih =>
    have ha := length_utf8EncodeChar_pos a
    rw [unquoteToBytes, h]
    simp only [List.flatMap_cons, List.length_append, List.length_cons]
    omega
  | case5 c a b rest h ih =>
    rw [unquoteToBytes, h, List.flatMap_cons, List.length_append, List.length_append]
    exact Nat.add_le_add_left ih _

end Quote

section Utf8

variable {s t : List Char}

/-- `bytes.decode("utf-8")`, of valid bytes. -/
def utf8Text (bytes : List UInt8) : Option (List Char) :=
  (ByteArray.mk bytes.toArray).utf8Decode?.map Array.toList

theorem utf8Encode_eq (t : List Char) :
    t.utf8Encode = ByteArray.mk (t.flatMap String.utf8EncodeChar).toArray := by
  rw [List.utf8Encode, ← List.data_toByteArray]

theorem utf8Text_encode (t : List Char) : utf8Text (t.flatMap String.utf8EncodeChar) = some t := by
  rw [utf8Text, ← utf8Encode_eq, List.utf8Decode?_utf8Encode]
  rfl

theorem utf8Text_some {bytes : List UInt8} (h : utf8Text bytes = some t) :
    bytes = t.flatMap String.utf8EncodeChar := by
  rw [utf8Text, Option.map_eq_some_iff] at h
  obtain ⟨decoded, hdecoded, rfl⟩ := h
  have hsome : (ByteArray.mk bytes.toArray).utf8Decode?.isSome = true := by rw [hdecoded]; rfl
  have hencode := ByteArray.utf8Encode_get_utf8Decode? (h := hsome)
  rw [utf8Encode_eq] at hencode
  simpa [hdecoded] using (congrArg (fun b => b.data.toList) hencode).symm

/-- `unquote`, of a text whose escapes are valid UTF-8. -/
def unquote (s : List Char) : Option (List Char) := utf8Text (unquoteToBytes s)

/-- `quote`. -/
def quote (safe : Char → Bool) (t : List Char) : List Char :=
  quoteBytes safe (t.flatMap String.utf8EncodeChar)

/-- **A quoted text comes back.** -/
theorem unquote_quote {safe : Char → Bool} (hsafe : safe '%' = false) (t : List Char) :
    unquote (quote safe t) = some t := by
  rw [unquote, quote, unquoteToBytes_quoteBytes hsafe, utf8Text_encode]

/-- A part of a text is read as the whole text only when it is the whole text. -/
theorem eq_of_unquote_sublist (hsub : s.Sublist t) (h : unquote s = some t) : s = t := by
  have hbytes := utf8Text_some h
  have hlength := length_unquoteToBytes_le s
  rw [hbytes] at hlength
  have hflat : s.flatMap String.utf8EncodeChar = t.flatMap String.utf8EncodeChar :=
    (hsub.flatMap _).eq_of_length_le hlength
  have hsame := utf8Text_encode s
  rw [hflat, utf8Text_encode, Option.some.injEq] at hsame
  exact hsame.symm

/-- **A text is read as it is exactly when it holds no escape.** -/
theorem unquote_self_iff : unquote t = some t ↔
    ∀ (before : List Char) (a b : Char) (rest : List Char),
      t = before ++ '%' :: a :: b :: rest → escapedByte? a b = none := by
  have hbytes : unquote t = some t ↔ unquoteToBytes t = t.flatMap String.utf8EncodeChar :=
    ⟨utf8Text_some, fun h => by rw [unquote, h, utf8Text_encode]⟩
  rw [hbytes]
  clear hbytes
  induction t using unquoteToBytes.induct with
  | case1 =>
    refine ⟨fun _ before a b rest h => ?_, fun _ => rfl⟩
    have := congrArg List.length h
    simp at this
  | case2 c =>
    refine ⟨fun _ before a b rest h => ?_, fun _ => by simp [unquoteToBytes]⟩
    have := congrArg List.length h
    simp at this
    omega
  | case3 c d =>
    refine ⟨fun _ before a b rest h => ?_, fun _ => by simp [unquoteToBytes]⟩
    have := congrArg List.length h
    simp at this
    omega
  | case4 c a b rest byte hescape ih =>
    constructor
    · intro heq
      have hlength := congrArg List.length heq
      have hrest := length_unquoteToBytes_le rest
      have hc := length_utf8EncodeChar_pos c
      have ha := length_utf8EncodeChar_pos a
      rw [unquoteToBytes, hescape] at hlength
      simp only [List.flatMap_cons, List.length_append, List.length_cons] at hlength
      omega
    · intro hnone
      by_cases hc : c = '%'
      · rw [if_pos hc, hnone [] a b rest (by rw [hc]; rfl)] at hescape
        cases hescape
      · rw [if_neg hc] at hescape
        cases hescape
  | case5 c a b rest hplain ih =>
    rw [unquoteToBytes, hplain, List.flatMap_cons, List.append_cancel_left_eq]
    refine ih.trans ⟨?_, ?_⟩
    · intro hrest before a' b' rest' heq
      cases before with
      | nil =>
        rw [List.nil_append, List.cons.injEq, List.cons.injEq, List.cons.injEq] at heq
        obtain ⟨rfl, rfl, rfl, -⟩ := heq
        rwa [if_pos rfl] at hplain
      | cons d before =>
        rw [List.cons_append, List.cons.injEq] at heq
        exact hrest before a' b' rest' heq.2
    · intro hall before a' b' rest' heq
      exact hall (c :: before) a' b' rest' (by rw [heq]; rfl)

/-- `unquote_plus`: a plus is a blank. -/
def unquotePlus (s : List Char) : Option (List Char) :=
  unquote (s.map fun c => if c = '+' then ' ' else c)

theorem unquote_of_not_mem (h : '%' ∉ t) : unquote t = some t :=
  unquote_self_iff.2 fun before a b rest heq => absurd (heq ▸ by simp) h

theorem unquotePlus_of_not_mem (h : '+' ∉ s) : unquotePlus s = unquote s := by
  have hsame : (s.map fun c => if c = '+' then ' ' else c) = s := by
    refine (List.map_congr_left fun c hc => ?_).trans (List.map_id _)
    have hne : c ≠ '+' := by
      rintro rfl
      exact h hc
    rw [if_neg hne]
    rfl
  rw [unquotePlus, hsame]

theorem not_mem_quote {safe : Char → Bool} {c : Char} (hne : c ≠ '%')
    (hreserved : isUnreserved c = false) (hsafe : safe c = false) (t : List Char) :
    c ∉ quote safe t := by
  intro hc
  rcases mem_quoteBytes hc with heq | hunreserved | hc
  · exact hne heq
  · rw [hreserved] at hunreserved
    cases hunreserved
  · rw [hsafe] at hc
    cases hc

theorem quote_ne_nil {safe : Char → Bool} (h : t ≠ []) : quote safe t ≠ [] := by
  refine quoteBytes_ne_nil fun hnil => ?_
  have hsame := utf8Text_encode t
  rw [hnil] at hsame
  exact h (Option.some.inj (hsame.symm.trans rfl))

end Utf8

section Query

variable {α : Type} {decode : List Char → Option α} {items : List (List Char × List Char)}

/-- The items of a query, each a name and a value. -/
def joinQuery (items : List (List Char × List Char)) : List Char :=
  ['&'].intercalate (items.map fun p => p.1 ++ '=' :: p.2)

/-- `item.partition("=")`. -/
def splitItem (item : List Char) : List Char × List Char :=
  (item.takeWhile (· != '='), (item.dropWhile (· != '=')).drop 1)

/-- A name and a value, decoded. -/
def decodeItem (decode : List Char → Option α) (p : List Char × List Char) : Option (α × α) :=
  (decode p.1).bind fun name => (decode p.2).map fun value => (name, value)

/-- `parse_qsl`: the pairs of a query that have a value. -/
def queryPairs (decode : List Char → Option α) (query : List Char) : Option (List (α × α)) :=
  (((query.splitOn '&').map splitItem).filter fun p => !p.2.isEmpty).mapM (decodeItem decode)

theorem splitItem_join {name : List Char} (h : '=' ∉ name) (value : List Char) :
    splitItem (name ++ '=' :: value) = (name, value) := by
  have hname : ∀ c ∈ name, (c != '=') = true := fun c hc =>
    bne_iff_ne.2 fun heq => h (heq ▸ hc)
  rw [splitItem, List.takeWhile_append_of_pos hname, List.dropWhile_append_of_pos hname]
  simp

/-- **A query is taken apart as it was joined.** -/
theorem queryPairs_joinQuery (hnames : ∀ p ∈ items, '&' ∉ p.1 ∧ '=' ∉ p.1)
    (hvalues : ∀ p ∈ items, '&' ∉ p.2 ∧ p.2 ≠ []) (hne : items ≠ []) :
    queryPairs decode (joinQuery items) = items.mapM (decodeItem decode) := by
  have hsplit : (joinQuery items).splitOn '&' = items.map fun p => p.1 ++ '=' :: p.2 := by
    refine List.splitOn_intercalate _ (fun item hitem => ?_) (by simpa using hne)
    obtain ⟨p, hp, rfl⟩ := List.mem_map.1 hitem
    intro hmem
    rcases List.mem_append.1 hmem with hmem | hmem
    · exact (hnames p hp).1 hmem
    · rcases List.mem_cons.1 hmem with heq | hmem
      · exact absurd heq (by decide)
      · exact (hvalues p hp).1 hmem
  have hparts : (items.map fun p => p.1 ++ '=' :: p.2).map splitItem = items := by
    rw [List.map_map]
    refine (List.map_congr_left fun p hp => ?_).trans (List.map_id _)
    exact splitItem_join (hnames p hp).2 p.2
  have hkept : (items.filter fun p => !p.2.isEmpty) = items :=
    List.filter_eq_self.2 fun p hp => by simpa using (hvalues p hp).2
  rw [queryPairs, hsplit, hparts, hkept]

theorem joinQuery_two (a x b y : List Char) :
    joinQuery [(a, x), (b, y)] = a ++ '=' :: (x ++ '&' :: (b ++ '=' :: y)) := by
  simp [joinQuery, List.append_assoc]

theorem mem_joinQuery {c : Char} (h : c ∈ joinQuery items) :
    c = '&' ∨ c = '=' ∨ ∃ p ∈ items, c ∈ p.1 ∨ c ∈ p.2 := by
  have hitem : ∀ p : List Char × List Char, c ∈ p.1 ++ '=' :: p.2 → c = '=' ∨ c ∈ p.1 ∨ c ∈ p.2 := by
    intro p hp
    rcases List.mem_append.1 hp with hp | hp
    · exact .inr (.inl hp)
    · exact (List.mem_cons.1 hp).imp_right .inr
  induction items with
  | nil => cases h
  | cons p items ih =>
    have hfirst : c ∈ p.1 ++ '=' :: p.2 →
        c = '&' ∨ c = '=' ∨ ∃ q ∈ p :: items, c ∈ q.1 ∨ c ∈ q.2 := fun hc =>
      .inr ((hitem p hc).imp_right fun hc => ⟨p, List.mem_cons_self, hc⟩)
    cases items with
    | nil =>
      rw [joinQuery, List.map_cons, List.map_nil, List.intercalate_singleton] at h
      exact hfirst h
    | cons q items =>
      rw [joinQuery, List.map_cons, List.map_cons, List.intercalate_cons_cons, List.append_assoc] at h
      rcases List.mem_append.1 h with h | h
      · exact hfirst h
      · rcases List.mem_append.1 h with h | h
        · exact .inl (List.mem_singleton.1 h)
        · rcases ih h with h | h | ⟨r, hr, h⟩
          · exact .inl h
          · exact .inr (.inl h)
          · exact .inr (.inr ⟨r, List.mem_cons_of_mem _ hr, h⟩)

end Query

section Link

variable {base query : List Char}

/-- The characters that a reader of links drops. -/
def isLinkBreak (c : Char) : Bool := c == '\t' || c == '\n' || c == '\r'

/-- A link, as its reader takes it apart: what comes before the query, and the query without the
fragment. -/
def linkParts (url : List Char) : List Char × List Char :=
  let url := url.filter fun c => !isLinkBreak c
  (url.takeWhile fun c => c != '?' && c != '#',
    ((url.takeWhile (· != '#')).dropWhile (· != '?')).drop 1)

theorem linkParts_base (base query : List Char) :
    (linkParts (base ++ '?' :: query)).1 =
      (base.filter fun c => !isLinkBreak c).takeWhile fun c => c != '?' && c != '#' := by
  have hmark : (('?' :: query).filter fun c => !isLinkBreak c) =
      '?' :: query.filter fun c => !isLinkBreak c := List.filter_cons_of_pos rfl
  rw [linkParts, List.filter_append, hmark]
  dsimp only
  rw [List.takeWhile_append]
  split
  · next hall =>
    rw [List.takeWhile_cons_of_neg (by decide), List.append_nil]
    exact ((List.takeWhile_prefix _).eq_of_length hall).symm
  · rfl

/-- **A link is taken apart at its mark**, when the base and the query hold none of their own. -/
theorem linkParts_join (hbase : ∀ c ∈ base, c ≠ '?' ∧ c ≠ '#')
    (hquery : ∀ c ∈ query, isLinkBreak c = false ∧ c ≠ '#') :
    linkParts (base ++ '?' :: query) = (base.filter fun c => !isLinkBreak c, query) := by
  have hkept : ((base ++ '?' :: query).filter fun c => !isLinkBreak c) =
      (base.filter fun c => !isLinkBreak c) ++ '?' :: query := by
    have hmark : (('?' :: query).filter fun c => !isLinkBreak c) = '?' :: query := by
      refine List.filter_eq_self.2 fun c hc => ?_
      rcases List.mem_cons.1 hc with rfl | hc
      · rfl
      · rw [(hquery c hc).1, Bool.not_false]
    rw [List.filter_append, hmark]
  have hbase' : ∀ c ∈ base.filter fun c => !isLinkBreak c, c ≠ '?' ∧ c ≠ '#' := fun c hc =>
    hbase c (List.mem_filter.1 hc).1
  rw [linkParts, hkept]
  generalize (base.filter fun c => !isLinkBreak c) = base at hbase' ⊢
  have hbefore : ((base ++ '?' :: query).takeWhile fun c => c != '?' && c != '#') = base := by
    rw [List.takeWhile_append_of_pos fun c hc => by simp [hbase' c hc],
      List.takeWhile_cons_of_neg (by decide), List.append_nil]
  have hall : (base ++ '?' :: query).takeWhile (· != '#') = base ++ '?' :: query := by
    refine List.takeWhile_eq_self_iff.2 fun c hc => ?_
    rcases List.mem_append.1 hc with hc | hc
    · exact bne_iff_ne.2 (hbase' c hc).2
    · rcases List.mem_cons.1 hc with rfl | hc
      · rfl
      · exact bne_iff_ne.2 (hquery c hc).2
  have hafter : (base ++ '?' :: query).dropWhile (· != '?') = '?' :: query := by
    rw [List.dropWhile_append_of_pos fun c hc => bne_iff_ne.2 (hbase' c hc).1]
    exact List.dropWhile_cons_of_neg (by decide)
  rw [hbefore, hall, hafter, List.drop_one, List.tail_cons]

end Link

end Py
