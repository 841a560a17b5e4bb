import Mathlib.Data.Rat.Defs
import Mathlib.Data.List.Nodup
import Mathlib.Tactic.Common
import SheepContabil.Py.Str

/-!
# Python values

The values a JSON document holds in Python, with Python's `==`: numbers compare
by value across `bool`, `int` and `float`, lists elementwise, dictionaries by
key whatever their order. A dictionary is the list of its items in insertion
order.
-/

namespace Py

inductive Value where
  | none
  | bool (b : Bool)
  | int (n : ℤ)
  | float (q : ℚ)
  | str (s : String)
  | list (xs : List Value)
  | dict (kvs : List (String × Value))

abbrev Dict := List (String × Value)

namespace Value

/-- The number a value is for `==`. -/
def num? : Value → Option ℚ
  | bool b => some (if b then 1 else 0)
  | int n => some n
  | float q => some q
  | _ => Option.none

mutual

/-- `a == b`. -/
def eq : Value → Value → Bool
  | none, none => true
  | str a, str b => a == b
  | list xs, list ys => eqList xs ys
  | dict a, dict b => a.length == b.length && eqDict a b
  | a, b => match num? a, num? b with
    | some x, some y => x == y
    | _, _ => false

def eqList : List Value → List Value → Bool
  | [], [] => true
  | x :: xs, y :: ys => eq x y && eqList xs ys
  | _, _ => false

/-- Every item of the first dictionary is in the second. -/
def eqDict : Dict → Dict → Bool
  | [], _ => true
  | (k, v) :: rest, other =>
    (match other.lookup k with
      | some w => eq v w
      | Option.none => false) && eqDict rest other

end

/-- `isinstance(v, str)` with the string. -/
def str? : Value → Option String
  | str s => some s
  | _ => Option.none

/-- `isinstance(v, list)` with the list. -/
def list? : Value → Option (List Value)
  | list xs => some xs
  | _ => Option.none

/-- `isinstance(v, dict)` with the items. -/
def dict? : Value → Option Dict
  | dict kvs => some kvs
  | _ => Option.none

/-- `isinstance(v, bool)` with the boolean. -/
def bool? : Value → Option Bool
  | bool b => some b
  | _ => Option.none

@[simp] theorem str?_str (s : String) : (str s).str? = some s := rfl
@[simp] theorem list?_list (xs : List Value) : (list xs).list? = some xs := rfl
@[simp] theorem dict?_dict (kvs : Dict) : (dict kvs).dict? = some kvs := rfl
@[simp] theorem bool?_bool (b : Bool) : (bool b).bool? = some b := rfl

end Value

/-- `not s.strip()`. -/
def isBlank (s : String) : Bool := s.toList.all isSpace

/-- `s.strip()`. -/
def strip (s : String) : String := String.ofList (stripOf isSpace s.toList)

namespace Dict

/-- `d.get(k)`, with `None` for a missing key. -/
def get (d : Dict) (k : String) : Value := (d.lookup k).getD .none

/-- `d[k] = v`. -/
def set : Dict → String → Value → Dict
  | [], k, v => [(k, v)]
  | (k', v') :: rest, k, v => if k' = k then (k, v) :: rest else (k', v') :: set rest k v

/-- `d.get(k) is True`. -/
def isTrue (d : Dict) (k : String) : Bool := (get d k).bool? == some true

/-- `left == right`. -/
def eq (a b : Dict) : Bool := Value.eq (.dict a) (.dict b)

end Dict

namespace Dict

theorem lookup_set_self (d : Dict) (k : String) (v : Value) : (set d k v).lookup k = some v := by
  induction d with
  | nil => simp [set]
  | cons kv rest ih =>
    obtain ⟨key, old⟩ := kv
    rw [set]
    split
    · simp []
    · next hne =>
      have hother : (k == key) = false := by simpa using Ne.symm hne
      simpa [List.lookup_cons, hother] using ih

theorem lookup_set_ne (d : Dict) {k k' : String} (v : Value) (h : k' ≠ k) :
    (set d k v).lookup k' = d.lookup k' := by
  have hother : (k' == k) = false := by simpa using h
  induction d with
  | nil => simp [set, List.lookup_cons, hother]
  | cons kv rest ih =>
    obtain ⟨key, old⟩ := kv
    rw [set]
    split
    · next heq =>
      subst heq
      simp [List.lookup_cons, hother]
    · simp only [List.lookup_cons]
      rw [ih]

end Dict

/-- With distinct keys, an item of a dictionary is the one its key finds. -/
theorem lookup_of_mem {β : Type} {d : List (String × β)} (hd : (d.map Prod.fst).Nodup) {k : String}
    {v : β} (h : (k, v) ∈ d) : d.lookup k = some v := by
  induction d with
  | nil => cases h
  | cons kv rest ih =>
    obtain ⟨k', v'⟩ := kv
    rw [List.map_cons, List.nodup_cons] at hd
    rcases List.mem_cons.1 h with heq | hrest
    · obtain ⟨rfl, rfl⟩ := Prod.mk.inj heq
      simp []
    · have hne : (k == k') = false := by
        have hmem : k ∈ rest.map Prod.fst := List.mem_map_of_mem (f := Prod.fst) hrest
        simp only [beq_eq_false_iff_ne, ne_eq]
        rintro rfl
        exact hd.1 hmem
      simp only [List.lookup_cons, hne]
      exact ih hd.2 hrest

/-- A computation that returns got past each of its steps. -/
theorem bind_eq_ok {ε α β : Type} {x : Except ε α} {f : α → Except ε β} {b : β} :
    (x >>= f) = .ok b ↔ ∃ a, x = .ok a ∧ f a = .ok b := by
  cases x with
  | error e => simp [Bind.bind, Except.bind]
  | ok a => simp [Bind.bind, Except.bind]

end Py
