import SheepContabil.Proof.Traceability

/-!
# The details of an event

`_minimize_details` strips keys and texts, counts the entries, and checks keys and
texts against the tables of patterns. The document it should persist is `trimmed`:
every entry once, under its stripped key. The document it persists is `merged`: two
keys that agree after `strip()` leave one entry.

* `minimizeValue_ok`: when `_minimize_value` accepts, and what it returns.
* `SafeDetails`, `DetailsContract`: the contract of the details.
* `detailsContract_iff`: **when the contract is met.**
-/

namespace SheepContabil

open Py

section Documents

mutual

/-- The JSON document of an object, every entry under its stripped key. -/
def PyObject.trimmed : PyObject → Value
  | .none | .other | .float none => .none
  | .bool b => .bool b
  | .int n => .int n
  | .float (some q) => .float q
  | .str s => .str (strip s)
  | .list xs => .list (trimmedList xs)
  | .mapping kvs => .dict (trimmedItems kvs)

def trimmedList : List PyObject → List Value
  | [] => []
  | x :: xs => x.trimmed :: trimmedList xs

def trimmedItems : List (Option String × PyObject) → Dict
  | [] => []
  | (k, x) :: rest => (strip (k.getD ""), x.trimmed) :: trimmedItems rest

end

mutual

/-- Every key is a text, every number is finite, and every value has a JSON type. -/
def PyObject.IsJson : PyObject → Prop
  | .none | .bool _ | .int _ | .float (some _) | .str _ => True
  | .float none | .other => False
  | .list xs => IsJsonList xs
  | .mapping kvs => IsJsonItems kvs

def IsJsonList : List PyObject → Prop
  | [] => True
  | x :: xs => x.IsJson ∧ IsJsonList xs

def IsJsonItems : List (Option String × PyObject) → Prop
  | [] => True
  | (k, x) :: rest => k.isSome = true ∧ x.IsJson ∧ IsJsonItems rest

end

end Documents

end SheepContabil

namespace Py.Value

mutual

/-- The entries of all mappings and lists. -/
def items : Value → ℕ
  | list xs => itemsList xs
  | dict kvs => itemsDict kvs
  | _ => 0

def itemsList : List Value → ℕ
  | [] => 0
  | x :: xs => 1 + items x + itemsList xs

def itemsDict : Dict → ℕ
  | [] => 0
  | (_, x) :: rest => 1 + items x + itemsDict rest

end

mutual

/-- The number of keys and indices on the longest path to a value. -/
def depth : Value → ℕ
  | list xs => depthList xs
  | dict kvs => depthDict kvs
  | _ => 0

def depthList : List Value → ℕ
  | [] => 0
  | x :: xs => max (1 + depth x) (depthList xs)

def depthDict : Dict → ℕ
  | [] => 0
  | (_, x) :: rest => max (1 + depth x) (depthDict rest)

end

mutual

/-- Every key meets `key`, and every value that is no list or mapping meets `leaf`. -/
def All (key : String → Prop) (leaf : Value → Prop) : Value → Prop
  | list xs => AllList key leaf xs
  | dict kvs => AllDict key leaf kvs
  | v => leaf v

def AllList (key : String → Prop) (leaf : Value → Prop) : List Value → Prop
  | [] => True
  | x :: xs => All key leaf x ∧ AllList key leaf xs

def AllDict (key : String → Prop) (leaf : Value → Prop) : Dict → Prop
  | [] => True
  | (k, x) :: rest => key k ∧ All key leaf x ∧ AllDict key leaf rest

end

mutual

/-- The keys of every mapping are distinct. -/
def Distinct : Value → Prop
  | list xs => DistinctList xs
  | dict kvs => (kvs.map Prod.fst).Nodup ∧ DistinctDict kvs
  | _ => True

def DistinctList : List Value → Prop
  | [] => True
  | x :: xs => Distinct x ∧ DistinctList xs

def DistinctDict : Dict → Prop
  | [] => True
  | (_, x) :: rest => Distinct x ∧ DistinctDict rest

end

mutual

/-- The value Python builds from a document: a repeated key keeps its place and its last value. -/
def merged : Value → Value
  | list xs => .list (mergedList xs)
  | dict kvs => .dict (mergedInto [] kvs)
  | v => v

def mergedList : List Value → List Value
  | [] => []
  | x :: xs => merged x :: mergedList xs

def mergedInto (result : Dict) : Dict → Dict
  | [] => result
  | (k, x) :: rest => mergedInto (Dict.set result k (merged x)) rest

end

section All

variable {key key' : String → Prop} {leaf leaf' : Value → Prop}

mutual

theorem All.and : ∀ v : Value, All (fun k => key k ∧ key' k) (fun v => leaf v ∧ leaf' v) v ↔
    All key leaf v ∧ All key' leaf' v
  | list xs => by simpa only [All] using AllList.and xs
  | dict kvs => by simpa only [All] using AllDict.and kvs
  | none | bool _ | int _ | float _ | str _ => Iff.rfl

theorem AllList.and : ∀ xs : List Value,
    AllList (fun k => key k ∧ key' k) (fun v => leaf v ∧ leaf' v) xs ↔
      AllList key leaf xs ∧ AllList key' leaf' xs
  | [] => by simp [AllList]
  | x :: xs => by
    simp only [AllList, All.and x, AllList.and xs]
    tauto

theorem AllDict.and : ∀ kvs : Dict,
    AllDict (fun k => key k ∧ key' k) (fun v => leaf v ∧ leaf' v) kvs ↔
      AllDict key leaf kvs ∧ AllDict key' leaf' kvs
  | [] => by simp [AllDict]
  | (k, x) :: rest => by
    simp only [AllDict, All.and x, AllDict.and rest]
    tauto

end

mutual

theorem All.mono (hkey : ∀ k, key k → key' k) (hleaf : ∀ v, leaf v → leaf' v) :
    ∀ v : Value, All key leaf v → All key' leaf' v
  | list xs, h => AllList.mono hkey hleaf xs h
  | dict kvs, h => AllDict.mono hkey hleaf kvs h
  | none, h | bool _, h | int _, h | float _, h | str _, h => hleaf _ h

theorem AllList.mono (hkey : ∀ k, key k → key' k) (hleaf : ∀ v, leaf v → leaf' v) :
    ∀ xs : List Value, AllList key leaf xs → AllList key' leaf' xs
  | [], _ => trivial
  | x :: xs, h => ⟨All.mono hkey hleaf x h.1, AllList.mono hkey hleaf xs h.2⟩

theorem AllDict.mono (hkey : ∀ k, key k → key' k) (hleaf : ∀ v, leaf v → leaf' v) :
    ∀ kvs : Dict, AllDict key leaf kvs → AllDict key' leaf' kvs
  | [], _ => trivial
  | (k, x) :: rest, h =>
    ⟨hkey k h.1, All.mono hkey hleaf x h.2.1, AllDict.mono hkey hleaf rest h.2.2⟩

end

end All

section Merged

theorem set_not_mem {d : Dict} {k : String} (v : Value) (h : k ∉ d.map Prod.fst) :
    Dict.set d k v = d ++ [(k, v)] := by
  induction d with
  | nil => rfl
  | cons kv rest ih =>
    obtain ⟨k', v'⟩ := kv
    simp only [List.map_cons, List.mem_cons, not_or] at h
    rw [Dict.set, if_neg (Ne.symm h.1), ih h.2, List.cons_append]

mutual

/-- **Distinct keys lose nothing.** -/
theorem merged_of_distinct : ∀ {v : Value}, Distinct v → merged v = v
  | list xs, h => by rw [merged, mergedList_of_distinct h]
  | dict kvs, h => by
    rw [merged, mergedInto_of_distinct h.2 (by simpa using h.1)]
    rfl
  | none, _ | bool _, _ | int _, _ | float _, _ | str _, _ => rfl

theorem mergedList_of_distinct : ∀ {xs : List Value}, DistinctList xs → mergedList xs = xs
  | [], _ => rfl
  | x :: xs, h => by rw [mergedList, merged_of_distinct h.1, mergedList_of_distinct h.2]

theorem mergedInto_of_distinct : ∀ {kvs result : Dict}, DistinctDict kvs →
    ((result ++ kvs).map Prod.fst).Nodup → mergedInto result kvs = result ++ kvs
  | [], result, _, _ => by simp [mergedInto]
  | (k, x) :: rest, result, h, hnodup => by
    have hk : k ∉ result.map Prod.fst := by
      rw [List.map_append, List.nodup_append] at hnodup
      intro hmem
      exact hnodup.2.2 k hmem k (by simp) rfl
    have hassoc : result ++ [(k, x)] ++ rest = result ++ (k, x) :: rest := by simp
    rw [mergedInto, merged_of_distinct h.1, set_not_mem x hk,
      mergedInto_of_distinct h.2 (by rwa [hassoc]), hassoc]

end

theorem distinctDict_iff {d : Dict} : DistinctDict d ↔ ∀ kv ∈ d, Distinct kv.2 := by
  induction d with
  | nil => simp [DistinctDict]
  | cons kv rest ih => obtain ⟨k, v⟩ := kv; simp [DistinctDict, ih]

mutual

/-- A value Python has built has distinct keys. -/
theorem distinct_merged : ∀ v : Value, Distinct (merged v)
  | list xs => distinctList_merged xs
  | dict kvs => distinct_mergedInto kvs ⟨by simp, trivial⟩
  | none | bool _ | int _ | float _ | str _ => trivial

theorem distinctList_merged : ∀ xs : List Value, DistinctList (mergedList xs)
  | [] => trivial
  | x :: xs => ⟨distinct_merged x, distinctList_merged xs⟩

theorem distinct_mergedInto : ∀ (kvs : Dict) {result : Dict}, Distinct (dict result) →
    Distinct (dict (mergedInto result kvs))
  | [], result, h => h
  | (k, x) :: rest, result, h => by
    refine distinct_mergedInto rest ⟨SheepContabil.keys_set h.1 k _, ?_⟩
    rw [distinctDict_iff]
    intro kv hkv
    rcases SheepContabil.mem_set hkv with hold | rfl
    · exact distinctDict_iff.1 h.2 kv hold
    · exact distinct_merged x

end

end Merged

end Py.Value

namespace SheepContabil

open Py

variable {Row : Type} (platform : Platform Row)

/-- What `_minimize_value` asks of a key. -/
def CleanKey (k : String) : Prop :=
  k ≠ "" ∧ k.length ≤ 80 ∧ platform.sensitiveKey k = false

/-- What `_minimize_value` asks of a text; it asks nothing of a number. -/
def CleanLeaf : Value → Prop
  | .str s => s.length ≤ 500 ∧ platform.sensitiveValue s = false
  | _ => True

section Checks

variable {platform}

theorem checkDepth_ok {depth : ℕ} {u : Unit} : checkDepth depth = .ok u ↔ depth ≤ 4 := by
  unfold checkDepth
  split <;> simp <;> omega

theorem checkItemCount_ok {n : ℕ} {u : Unit} : checkItemCount n = .ok u ↔ n ≤ 40 := by
  unfold checkItemCount
  split <;> simp <;> omega

theorem checkListLength_ok {xs : List PyObject} {u : Unit} :
    checkListLength xs = .ok u ↔ xs.length ≤ 40 := by
  unfold checkListLength
  split <;> simp <;> omega

theorem cleanKey_ok {raw : Option String} {k : String} :
    cleanKey platform raw = .ok k ↔
      raw.isSome = true ∧ CleanKey platform (strip (raw.getD "")) ∧ k = strip (raw.getD "") := by
  cases raw with
  | none => simp [cleanKey]
  | some s =>
    simp only [cleanKey, Option.getD_some, Option.isSome_some, true_and, CleanKey]
    split
    · next h =>
      simp only [Bool.or_eq_true, decide_eq_true_eq] at h
      simp only [reduceCtorEq, false_iff, not_and]
      intro hk
      rcases h with h | h
      · exact absurd h hk.1
      · omega
    · next h =>
      simp only [Bool.or_eq_true, decide_eq_true_eq, not_or, not_lt] at h
      split
      · next hs => simp [hs]
      · next hs =>
        simp only [Except.ok.injEq]
        constructor
        · rintro rfl; exact ⟨⟨h.1, h.2, by simpa using hs⟩, rfl⟩
        · rintro ⟨-, rfl⟩; rfl

theorem cleanText_ok {path s t : String} :
    cleanText platform path s = .ok t ↔ CleanLeaf platform (.str (strip s)) ∧ t = strip s := by
  simp only [cleanText, CleanLeaf, rejectSensitiveValue]
  split
  · next h => simp only [reduceCtorEq, false_iff, not_and]; omega
  · next h =>
    split
    · next hs => simp [hs, Bind.bind, Except.bind]
    · next hs =>
      simp only [Bool.not_eq_true] at hs
      simp only [Bind.bind, Except.bind, Except.ok.injEq]
      constructor
      · rintro rfl; exact ⟨⟨by omega, hs⟩, rfl⟩
      · rintro ⟨-, rfl⟩; rfl

/-- What `_minimize_value` accepts at this depth, when so many items are counted before. -/
structure Accepts (platform : Platform Row) (depth count : ℕ) (v : Value) : Prop where
  clean : v.All (CleanKey platform) (CleanLeaf platform)
  depth : depth + v.depth ≤ 4
  items : count + v.items ≤ 40

theorem itemsList_length : ∀ xs : List PyObject, xs.length ≤ Value.itemsList (trimmedList xs)
  | [] => Nat.le_refl _
  | x :: xs => by
    have h := itemsList_length xs
    simp only [List.length_cons, trimmedList, Value.itemsList]
    omega

/-- A value that is no text, list or mapping is accepted when its depth is. -/
theorem scalar_ok (w : Value) {depth count n : ℕ} {v : Value} (hcount : count ≤ 40)
    (hdepth : w.depth = 0) (hitems : w.items = 0)
    (hclean : w.All (CleanKey platform) (CleanLeaf platform)) (hmerged : w.merged = w) :
    (∃ _ : Unit, depth ≤ 4 ∧ w = v ∧ count = n) ↔
      True ∧ Accepts platform depth count w ∧ v = w.merged ∧ n = count + w.items := by
  rw [hmerged, hitems]
  constructor
  · rintro ⟨-, hd, rfl, rfl⟩
    exact ⟨trivial, ⟨hclean, by rw [hdepth]; exact hd, by rw [hitems]; exact hcount⟩, rfl, rfl⟩
  · rintro ⟨-, ⟨-, hd, -⟩, rfl, rfl⟩
    rw [hdepth] at hd
    exact ⟨(), hd, rfl, rfl⟩

mutual

/-- **`_minimize_value`**: when it accepts, and what it returns. -/
theorem minimizeValue_ok : ∀ {x : PyObject} {path : String} {depth count : ℕ} {v : Value} {n : ℕ},
    count ≤ 40 → (minimizeValue platform path depth count x = .ok (v, n) ↔
      x.IsJson ∧ Accepts platform depth count x.trimmed ∧ v = x.trimmed.merged ∧
        n = count + x.trimmed.items)
  | .none, path, depth, count, v, n, hcount => by
    simp only [minimizeValue, bind_eq_ok, checkDepth_ok, Except.ok.injEq, Prod.mk.injEq]
    exact scalar_ok (.none) hcount rfl rfl trivial rfl
  | .bool b, path, depth, count, v, n, hcount => by
    simp only [minimizeValue, bind_eq_ok, checkDepth_ok, Except.ok.injEq, Prod.mk.injEq]
    exact scalar_ok (.bool b) hcount rfl rfl trivial rfl
  | .int i, path, depth, count, v, n, hcount => by
    simp only [minimizeValue, bind_eq_ok, checkDepth_ok, Except.ok.injEq, Prod.mk.injEq]
    exact scalar_ok (.int i) hcount rfl rfl trivial rfl
  | .float none, path, depth, count, v, n, hcount => by
    simp [minimizeValue, bind_eq_ok, PyObject.IsJson]
  | .float (some q), path, depth, count, v, n, hcount => by
    simp only [minimizeValue, bind_eq_ok, checkDepth_ok, Except.ok.injEq, Prod.mk.injEq]
    exact scalar_ok (.float q) hcount rfl rfl trivial rfl
  | .other, path, depth, count, v, n, hcount => by
    simp [minimizeValue, bind_eq_ok, PyObject.IsJson]
  | .str s, path, depth, count, v, n, hcount => by
    simp only [minimizeValue, bind_eq_ok, checkDepth_ok, cleanText_ok, Except.ok.injEq, Prod.mk.injEq]
    constructor
    · rintro ⟨-, hdepth, t, ⟨hclean, rfl⟩, rfl, rfl⟩
      exact ⟨trivial, ⟨hclean, hdepth, hcount⟩, rfl, rfl⟩
    · rintro ⟨-, ⟨hclean, hdepth, -⟩, rfl, rfl⟩
      exact ⟨(), hdepth, _, ⟨hclean, rfl⟩, rfl, rfl⟩
  | .list xs, path, depth, count, v, n, hcount => by
    simp only [minimizeValue, bind_eq_ok, checkDepth_ok, checkListLength_ok, Except.ok.injEq,
      Prod.mk.injEq]
    constructor
    · rintro ⟨-, hdepth, -, -, ⟨vs, m⟩, hloop, rfl, rfl⟩
      obtain ⟨hjson, hclean, hd, hitems, rfl, rfl⟩ := (minimizeList_ok hdepth hcount).1 hloop
      exact ⟨hjson, ⟨hclean, hd, hitems⟩, rfl, rfl⟩
    · rintro ⟨hjson, ⟨hclean, hd, hitems⟩, rfl, rfl⟩
      have hdepth : depth ≤ 4 := Nat.le_trans (Nat.le_add_right _ _) hd
      have hlength := itemsList_length xs
      simp only [PyObject.trimmed, Value.items] at hitems
      refine ⟨(), hdepth, (), by omega, (_, _), ?_, rfl, rfl⟩
      exact (minimizeList_ok hdepth hcount).2 ⟨hjson, hclean, hd, hitems, rfl, rfl⟩
  | .mapping kvs, path, depth, count, v, n, hcount => by
    simp only [minimizeValue, bind_eq_ok, checkDepth_ok, Except.ok.injEq, Prod.mk.injEq]
    constructor
    · rintro ⟨-, hdepth, ⟨d, m⟩, hloop, rfl, rfl⟩
      obtain ⟨hjson, hclean, hd, hitems, rfl, rfl⟩ := (minimizeItems_ok hdepth hcount).1 hloop
      exact ⟨hjson, ⟨hclean, hd, hitems⟩, rfl, rfl⟩
    · rintro ⟨hjson, ⟨hclean, hd, hitems⟩, rfl, rfl⟩
      have hdepth : depth ≤ 4 := Nat.le_trans (Nat.le_add_right _ _) hd
      refine ⟨(), hdepth, (_, _), ?_, rfl, rfl⟩
      exact (minimizeItems_ok hdepth hcount).2 ⟨hjson, hclean, hd, hitems, rfl, rfl⟩

theorem minimizeItems_ok : ∀ {kvs : List (Option String × PyObject)} {path : String}
    {depth count : ℕ} {result d : Dict} {n : ℕ}, depth ≤ 4 → count ≤ 40 →
    (minimizeItems platform path depth count result kvs = .ok (d, n) ↔
      IsJsonItems kvs ∧ Value.AllDict (CleanKey platform) (CleanLeaf platform) (trimmedItems kvs) ∧
        depth + Value.depthDict (trimmedItems kvs) ≤ 4 ∧
        count + Value.itemsDict (trimmedItems kvs) ≤ 40 ∧
        d = Value.mergedInto result (trimmedItems kvs) ∧
        n = count + Value.itemsDict (trimmedItems kvs))
  | [], path, depth, count, result, d, n, hdepth, hcount => by
    simp only [minimizeItems, Except.ok.injEq, Prod.mk.injEq, IsJsonItems, trimmedItems, Value.AllDict,
      Value.depthDict, Value.itemsDict, Value.mergedInto, Nat.add_zero, hdepth, hcount, true_and]
    exact ⟨fun h => ⟨h.1.symm, h.2.symm⟩, fun h => ⟨h.1.symm, h.2.symm⟩⟩
  | (rawKey, rawValue) :: rest, path, depth, count, result, d, n, hdepth, hcount => by
    simp only [minimizeItems, bind_eq_ok, checkItemCount_ok, cleanKey_ok, IsJsonItems, trimmedItems,
      Value.AllDict, Value.depthDict, Value.itemsDict, Value.mergedInto]
    constructor
    · rintro ⟨key, ⟨hkey, hclean, rfl⟩, -, hitem, ⟨v, m⟩, hv, hloop⟩
      obtain ⟨hjson, ⟨hvclean, hvdepth, hvitems⟩, rfl, rfl⟩ := (minimizeValue_ok hitem).1 hv
      obtain ⟨hrest, hrclean, hrdepth, hritems, rfl, rfl⟩ := (minimizeItems_ok hdepth hvitems).1 hloop
      exact ⟨⟨hkey, hjson, hrest⟩, ⟨hclean, hvclean, hrclean⟩, by omega, by omega, rfl, by omega⟩
    · rintro ⟨⟨hkey, hjson, hrest⟩, ⟨hclean, hvclean, hrclean⟩, hd, hitems, rfl, rfl⟩
      refine ⟨_, ⟨hkey, hclean, rfl⟩, (), by omega, (_, _), (minimizeValue_ok (by omega)).2
        ⟨hjson, ⟨hvclean, by omega, by omega⟩, rfl, rfl⟩, ?_⟩
      exact (minimizeItems_ok hdepth (by omega)).2
        ⟨hrest, hrclean, by omega, by omega, rfl, by omega⟩

theorem minimizeList_ok : ∀ {xs : List PyObject} {path : String} {depth count index : ℕ}
    {vs : List Value} {n : ℕ}, depth ≤ 4 → count ≤ 40 →
    (minimizeList platform path depth count index xs = .ok (vs, n) ↔
      IsJsonList xs ∧ Value.AllList (CleanKey platform) (CleanLeaf platform) (trimmedList xs) ∧
        depth + Value.depthList (trimmedList xs) ≤ 4 ∧
        count + Value.itemsList (trimmedList xs) ≤ 40 ∧
        vs = Value.mergedList (trimmedList xs) ∧
        n = count + Value.itemsList (trimmedList xs))
  | [], path, depth, count, index, vs, n, hdepth, hcount => by
    simp only [minimizeList, Except.ok.injEq, Prod.mk.injEq, IsJsonList, trimmedList, Value.AllList,
      Value.depthList, Value.itemsList, Value.mergedList, Nat.add_zero, hdepth, hcount, true_and]
    exact ⟨fun h => ⟨h.1.symm, h.2.symm⟩, fun h => ⟨h.1.symm, h.2.symm⟩⟩
  | item :: rest, path, depth, count, index, vs, n, hdepth, hcount => by
    simp only [minimizeList, bind_eq_ok, checkItemCount_ok, IsJsonList, trimmedList, Value.AllList,
      Value.depthList, Value.itemsList, Value.mergedList, Except.ok.injEq, Prod.mk.injEq]
    constructor
    · rintro ⟨-, hitem, ⟨v, m⟩, hv, ⟨ws, k⟩, hloop, rfl, rfl⟩
      obtain ⟨hjson, ⟨hvclean, hvdepth, hvitems⟩, rfl, rfl⟩ := (minimizeValue_ok hitem).1 hv
      obtain ⟨hrest, hrclean, hrdepth, hritems, rfl, rfl⟩ := (minimizeList_ok hdepth hvitems).1 hloop
      exact ⟨⟨hjson, hrest⟩, ⟨hvclean, hrclean⟩, by omega, by omega, rfl, by omega⟩
    · rintro ⟨⟨hjson, hrest⟩, ⟨hvclean, hrclean⟩, hd, hitems, rfl, rfl⟩
      refine ⟨(), by omega, (_, _), (minimizeValue_ok (by omega)).2
        ⟨hjson, ⟨hvclean, by omega, by omega⟩, rfl, rfl⟩, (_, _), ?_, rfl, rfl⟩
      refine (minimizeList_ok hdepth (by omega)).2 ⟨hrest, hrclean, by omega, by omega, rfl, ?_⟩
      omega

end

end Checks

section Contract

variable (floatText : ℚ → String)

/-- A text, or a number written as text, that no pattern of `_SENSITIVE_VALUE_PATTERNS` matches. -/
def SafeLeaf : Value → Prop
  | .str s => platform.sensitiveValue s = false
  | .int n => platform.sensitiveValue (toString n) = false
  | .float q => platform.sensitiveValue (floatText q) = false
  | _ => True

/-- A number whose text no pattern matches. -/
def SafeNumber : Value → Prop
  | .int n => platform.sensitiveValue (toString n) = false
  | .float q => platform.sensitiveValue (floatText q) = false
  | _ => True

/-- The entries of the details, every one under its stripped key. -/
def PyObject.entries : PyObject → Dict
  | .mapping kvs => trimmedItems kvs
  | _ => []

/-- No sensitive key and no sensitive leaf. -/
def SafeContent (d : Dict) : Prop :=
  (Value.dict d).All (fun k => platform.sensitiveKey k = false) (SafeLeaf platform floatText)

/-- **The persisted details are safe and lossless**: within the limits, without sensitive content,
and every entry of every mapping is there once. -/
structure SafeDetails (details : PyObject) (d : Dict) : Prop where
  items : (Value.dict d).items ≤ 40
  depth : (Value.dict d).depth ≤ 4
  size : platform.encodedSize d ≤ 4096
  content : SafeContent platform floatText d
  entries : d = details.entries
  once : (Value.dict d).Distinct

/-- The details break one of the limits. -/
def ViolatesLimit (details : PyObject) : Prop :=
  40 < (Value.dict details.entries).items ∨ 4 < (Value.dict details.entries).depth ∨
    4096 < platform.encodedSize details.entries ∨ ¬ SafeContent platform floatText details.entries

/-- What `_minimize_details` asks of a mapping. -/
structure Acceptable (details : PyObject) : Prop where
  mapping : ∃ kvs, details = .mapping kvs
  json : details.IsJson
  accepts : Accepts platform 0 0 details.trimmed
  size : platform.encodedSize (Value.mergedInto [] details.entries) ≤ 4096

/-- **`_minimize_details`** of a mapping. -/
theorem minimizeDetails_ok {details : PyObject} {d : Dict} (hnone : details ≠ .none) :
    minimizeDetails platform details = .ok d ↔
      Acceptable platform details ∧ d = Value.mergedInto [] details.entries := by
  cases details with
  | none => exact absurd rfl hnone
  | mapping kvs =>
    simp only [minimizeDetails, bind_eq_ok]
    constructor
    · rintro ⟨⟨v, n⟩, hv, h⟩
      obtain ⟨hjson, haccepts, rfl, rfl⟩ := (minimizeValue_ok (Nat.zero_le _)).1 hv
      simp only [PyObject.trimmed, Value.merged] at h
      split at h
      · cases h
      · next hsize =>
        obtain rfl := Except.ok.inj h
        exact ⟨⟨⟨kvs, rfl⟩, hjson, haccepts, Nat.le_of_not_lt hsize⟩, rfl⟩
    · rintro ⟨⟨-, hjson, haccepts, hsize⟩, rfl⟩
      refine ⟨(_, _), (minimizeValue_ok (Nat.zero_le _)).2 ⟨hjson, haccepts, rfl, rfl⟩, ?_⟩
      simp only [PyObject.trimmed, Value.merged]
      exact if_neg (Nat.not_lt.2 hsize)
  | _ =>
    simp only [minimizeDetails, reduceCtorEq, false_iff, not_and]
    rintro ⟨⟨kvs, hkvs⟩, -⟩
    cases hkvs

/-- Clean keys and texts leave the numbers to be looked at. -/
theorem safeContent_iff {d : Dict} (h : (Value.dict d).All (CleanKey platform) (CleanLeaf platform)) :
    SafeContent platform floatText d ↔
      (Value.dict d).All (fun _ => True) (SafeNumber platform floatText) := by
  constructor
  · refine Value.All.mono (fun _ _ => trivial) (fun v hv => ?_) _
    cases v <;> first | exact hv | trivial
  · intro hnumbers
    refine Value.All.mono (fun k hk => hk.1.2.2) (fun v hv => ?_) _ ((Value.All.and _).2 ⟨h, hnumbers⟩)
    obtain ⟨hclean, hnumber⟩ := hv
    cases v <;> first | exact hclean.2 | exact hnumber

/-- **The contract of the details.** -/
structure DetailsContract (platform : Platform AutomationRunEvent) (floatText : ℚ → String)
    (details : PyObject) : Prop where
  persisted : ∀ d, minimizeDetails platform details = .ok d →
    SafeDetails platform floatText details d
  recorded : ∀ (s s' : Ledger) (c : RecordCall) (id : EventId) (now : ℤ) (event : AutomationRunEvent),
    c.details = details → s.record platform c id now = (.ok (event, true), s') →
      minimizeDetails platform details = .ok event.details
  rejected : ViolatesLimit platform floatText details →
    ∀ (s : Ledger) (c : RecordCall) (id : EventId) (now : ℤ), c.details = details →
      ∃ e, s.record platform c id now = (.error e, s)

/-- The condition of the contract: no number reads as sensitive text, and no two keys of a mapping
agree after `strip()`. -/
structure UnambiguousDetails (details : PyObject) : Prop where
  numbers : (Value.dict details.entries).All (fun _ => True) (SafeNumber platform floatText)
  keys : (Value.dict details.entries).Distinct

/-- A created event holds the minimised details of its call. -/
theorem record_details {platform : Platform AutomationRunEvent} {s s' : Ledger} {c : RecordCall}
    {id : EventId} {now : ℤ} {event : AutomationRunEvent}
    (h : s.record platform c id now = (.ok (event, true), s')) :
    minimizeDetails platform c.details = .ok event.details := by
  rcases Ledger.record_cases platform s c id now with ⟨e, he⟩ | ⟨r, p, t, x, -, -, -, he⟩ |
    ⟨r, p, t, hclean, -, -, he⟩
  · rw [he] at h
    cases h
  · rw [he] at h
    cases h
  · rw [he] at h
    obtain ⟨hx, -⟩ := Prod.mk.inj h
    obtain ⟨rfl, -⟩ := Prod.mk.inj (Except.ok.inj hx)
    exact (clean_details hclean).1

/-- **The contract is met** exactly by the details that are not accepted, or whose keys stay distinct
and whose numbers do not read as sensitive text. -/
theorem detailsContract_iff (platform : Platform AutomationRunEvent) (floatText : ℚ → String)
    (hempty : platform.encodedSize [] = 2) (details : PyObject) :
    DetailsContract platform floatText details ↔
      (Acceptable platform details → UnambiguousDetails platform floatText details) := by
  -- distinct keys: the dictionary that is built is the list of the entries that were counted
  have hsafe : (Acceptable platform details → UnambiguousDetails platform floatText details) →
      ∀ d, minimizeDetails platform details = .ok d → SafeDetails platform floatText details d := by
    intro hcond d hd
    by_cases hnone : details = .none
    · subst hnone
      obtain rfl := Except.ok.inj hd
      exact ⟨Nat.zero_le _, Nat.zero_le _, by rw [hempty]; omega, trivial, rfl, ⟨by simp, trivial⟩⟩
    · obtain ⟨hacc, rfl⟩ := (minimizeDetails_ok platform hnone).1 hd
      obtain ⟨hnumbers, hkeys⟩ := hcond hacc
      obtain ⟨⟨kvs, rfl⟩, hjson, ⟨hclean, hdepth, hitems⟩, hsize⟩ := hacc
      have hmerged : Value.mergedInto [] (trimmedItems kvs) = trimmedItems kvs :=
        Value.dict.inj (Value.merged_of_distinct hkeys)
      simp only [PyObject.trimmed, Nat.zero_add] at hdepth hitems
      simp only [PyObject.entries] at hsize ⊢
      rw [hmerged] at hsize ⊢
      exact ⟨hitems, hdepth, hsize,
        (safeContent_iff platform floatText hclean).2 hnumbers, rfl, hkeys⟩
  constructor
  · rintro ⟨hpersisted, -, -⟩ hacc
    have hnone : details ≠ .none := by
      rintro rfl
      obtain ⟨kvs, hkvs⟩ := hacc.mapping
      cases hkvs
    -- the persisted details have their keys once, so no entry was lost on the way
    have h := hpersisted _ ((minimizeDetails_ok platform hnone).2 ⟨hacc, rfl⟩)
    have hentries := h.entries
    obtain ⟨⟨kvs, rfl⟩, hjson, haccepts, hsize⟩ := hacc
    have hcontent := h.content
    rw [hentries] at hcontent
    exact ⟨(safeContent_iff platform floatText haccepts.clean).1 hcontent, hentries ▸ h.once⟩
  · intro hcond
    refine ⟨hsafe hcond, fun s s' c id now event hc h => hc ▸ record_details h, ?_⟩
    intro hviolates s c id now hc
    unfold Ledger.record
    cases hclean : c.clean platform with
    | error e => exact ⟨e, rfl⟩
    | ok x =>
      obtain ⟨r, p, t⟩ := x
      have h := hsafe hcond p.details (hc ▸ (clean_details hclean).1)
      have hentries := h.entries
      rw [hentries] at h
      rcases hviolates with hitems | hdepth | hsize | hcontent
      · exact absurd h.items (Nat.not_le.2 hitems)
      · exact absurd h.depth (Nat.not_le.2 hdepth)
      · exact absurd h.size (Nat.not_le.2 hsize)
      · exact absurd h.content hcontent

end Contract

section Numbers

/-- The last pattern of `_SENSITIVE_VALUE_PATTERNS`: a run of 11 or 14 digits, with the length of
the run so far. -/
def hasDocumentNumber (run : ℕ) : List Char → Bool
  | [] => run == 11 || run == 14
  | c :: rest =>
    if c.isDigit then hasDocumentNumber (run + 1) rest
    else run == 11 || run == 14 || hasDocumentNumber 0 rest

/-- The text of an integer. -/
def integerText : Value → String
  | .int n => toString n
  | _ => ""

/-- The patterns and the size on details whose keys are ASCII and whose values are integers. -/
def documentNumbers : Platform AutomationRunEvent where
  sensitiveKey _ := false
  sensitiveValue s := hasDocumentNumber 0 s.toList
  withoutUuids s := s
  encodedSize d := Nat.max 2 <|
    d.foldl (fun size kv => size + kv.1.length + 4 + (integerText kv.2).length) 1
  accepts _ := true

/-- A small count meets the contract. -/
theorem detailsContract_iff_count :
    DetailsContract documentNumbers (fun q => toString q) (.mapping [(some "n", .int 42)]) := by
  refine (detailsContract_iff documentNumbers (fun q => toString q) rfl _).2 fun _ => ⟨?_, ?_⟩
  · have hnumber : documentNumbers.sensitiveValue (toString (42 : ℤ)) = false := by decide
    exact ⟨trivial, hnumber, trivial⟩
  · exact ⟨by simp [PyObject.entries, trimmedItems], trivial, trivial⟩

/-- **A CPF given as a number is persisted.** -/
theorem details_cpf_number :
    ¬ ∀ (floatText : ℚ → String) (details : PyObject),
      DetailsContract documentNumbers floatText details := by
  intro h
  have hsafe := ((h (fun _ => "") (.mapping [(some "n", .int 12345678901)])).persisted
    [("n", .int 12345678901)] rfl).content
  have hnumber : documentNumbers.sensitiveValue (toString (12345678901 : ℤ)) = false := hsafe.2.1
  exact absurd hnumber (by decide)

end Numbers

end SheepContabil
