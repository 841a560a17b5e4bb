import Mathlib.Algebra.Ring.Nat
import SheepContabil.Py.Value

/-!
# Floats in a JSON column

A float is its exact value. `repr` writes the shortest decimal that reads as the float, from `10 ^ 16`
on with an exponent, and PostgreSQL keeps the decimal: it gives a number without a fraction back as an
integer, which need not be the value of the float.

* `nearestFloat`: the binary64 number that a decimal reads as.
* `shortestDecimal`: the integer that `repr` writes for a float of at least `10 ^ 16`.
* `Value.fromColumn`: what a column of type `jsonb` gives back for a value.
* `Value.eq_fromColumn`: a value whose floats come back equal compares as it did.
-/

namespace Py

/-- The binary64 number nearest to an integer, ties to an even significand of 53 bits. -/
def nearestFloat (m : ℕ) : ℕ :=
  let ulp := 2 ^ (m.log2 - 52)
  let roundsUp := decide (ulp < 2 * (m % ulp)) || (2 * (m % ulp) == ulp && (m / ulp) % 2 == 1)
  (if roundsUp then m / ulp + 1 else m / ulp) * ulp

/-- Of a lower and a higher decimal the one that is nearer to `n`; between two as near, the one whose
last digit is even. -/
def nearer (n k low high : ℕ) : ℕ :=
  if n - low < high - n then low
  else if high - n < n - low then high
  else if (n / 10 ^ k) % 2 == 0 then low else high

/-- The multiple of `10 ^ k` that reads as `n`, the nearer one of two. -/
def decimalAt (n k : ℕ) : Option ℕ :=
  let low := n / 10 ^ k * 10 ^ k
  let high := low + 10 ^ k
  if nearestFloat low == n then
    some (if nearestFloat high == n then nearer n k low high else low)
  else if nearestFloat high == n then some high
  else none

/-- The decimal with the most zeros at its end, up to `k` of them. -/
def shortestFrom (n : ℕ) : ℕ → ℕ
  | 0 => n
  | k + 1 => (decimalAt n (k + 1)).getD (shortestFrom n k)

/-- The digits of `repr(float)`, as an integer, of a float of at least `10 ^ 16`. -/
def shortestDecimal (n : ℕ) : ℕ := shortestFrom n n.log2

theorem nearestFloat_decimalAt {n k m : ℕ} (h : decimalAt n k = some m) : nearestFloat m = n := by
  unfold decimalAt at h
  dsimp only at h
  split at h
  · next hlow =>
    rw [← Option.some.inj h]
    split
    · next hhigh =>
      unfold nearer
      split
      · exact beq_iff_eq.1 hlow
      · split
        · exact beq_iff_eq.1 hhigh
        · split
          · exact beq_iff_eq.1 hlow
          · exact beq_iff_eq.1 hhigh
    · exact beq_iff_eq.1 hlow
  · split at h
    · next hhigh => rw [← Option.some.inj h]; exact beq_iff_eq.1 hhigh
    · cases h

/-- What `repr` writes reads as the float. -/
theorem nearestFloat_shortestDecimal {n : ℕ} (h : nearestFloat n = n) :
    nearestFloat (shortestDecimal n) = n := by
  unfold shortestDecimal
  generalize n.log2 = k
  induction k with
  | zero => exact h
  | succ k ih =>
    rw [shortestFrom]
    cases hm : decimalAt n (k + 1) with
    | none => exact ih
    | some m => exact nearestFloat_decimalAt hm

/-- The float nearest to `10 ^ 23` is below it, and `repr` writes `1e+23`. -/
example : nearestFloat (10 ^ 23) = 99999999999999991611392 ∧
    shortestDecimal 99999999999999991611392 = 10 ^ 23 := by decide +kernel

namespace Value

/-- What the column gives back for a float. -/
def ofFloat (q : ℚ) : Value :=
  let n := q.num.natAbs / q.den
  if 10 ^ 16 ≤ n then .int (if q.num < 0 then -(shortestDecimal n : ℤ) else shortestDecimal n)
  else .float q

/-- The float comes back as a number that is equal to it. -/
def keepsFloat (q : ℚ) : Bool := (ofFloat q).num? == some q

mutual

/-- What a `jsonb` column gives back. The order of keys, which it does not keep, is left as it is. -/
def fromColumn : Value → Value
  | float q => ofFloat q
  | list xs => list (fromColumnList xs)
  | dict kvs => dict (fromColumnItems kvs)
  | v => v

def fromColumnList : List Value → List Value
  | [] => []
  | x :: xs => fromColumn x :: fromColumnList xs

def fromColumnItems : Dict → Dict
  | [] => []
  | (k, v) :: rest => (k, fromColumn v) :: fromColumnItems rest

end

mutual

/-- Every float of the value comes back as an equal number. -/
def keepsFloats : Value → Bool
  | float q => keepsFloat q
  | list xs => keepsFloatsList xs
  | dict kvs => keepsFloatsItems kvs
  | _ => true

def keepsFloatsList : List Value → Bool
  | [] => true
  | x :: xs => keepsFloats x && keepsFloatsList xs

def keepsFloatsItems : Dict → Bool
  | [] => true
  | (_, v) :: rest => keepsFloats v && keepsFloatsItems rest

end

theorem keepsFloatsList_iff {xs : List Value} :
    keepsFloatsList xs = true ↔ ∀ x ∈ xs, x.keepsFloats = true := by
  induction xs with
  | nil => simp [keepsFloatsList]
  | cons x xs ih => rw [keepsFloatsList, Bool.and_eq_true, ih, List.forall_mem_cons]

theorem keepsFloatsItems_iff {kvs : Dict} :
    keepsFloatsItems kvs = true ↔ ∀ kv ∈ kvs, kv.2.keepsFloats = true := by
  induction kvs with
  | nil => simp [keepsFloatsItems]
  | cons kv kvs ih => rw [keepsFloatsItems, Bool.and_eq_true, ih, List.forall_mem_cons]

/-- A float that comes back equal compares as it did. -/
theorem eq_ofFloat {q : ℚ} (h : keepsFloat q = true) (w : Value) :
    eq (ofFloat q) w = eq (float q) w := by
  rw [keepsFloat, beq_iff_eq] at h
  unfold ofFloat at h ⊢
  dsimp only at h ⊢
  split at h
  · next hlarge =>
    rw [if_pos hlarge]
    generalize (if q.num < 0 then -(shortestDecimal (q.num.natAbs / q.den) : ℤ)
      else shortestDecimal (q.num.natAbs / q.den)) = n at h ⊢
    obtain rfl : (n : ℚ) = q := Option.some.inj h
    cases w <;> simp [eq, num?]
  · next hsmall => rw [if_neg hsmall]

theorem length_fromColumnItems (kvs : Dict) : (fromColumnItems kvs).length = kvs.length := by
  induction kvs with
  | nil => rfl
  | cons kv rest ih => rw [fromColumnItems, List.length_cons, List.length_cons, ih]

mutual

/-- **A value whose floats come back equal compares as it did.** -/
theorem eq_fromColumn : ∀ {v : Value}, v.keepsFloats = true → ∀ w, eq v.fromColumn w = eq v w
  | .none, _, _ => rfl
  | .bool _, _, _ => rfl
  | .int _, _, _ => rfl
  | .str _, _, _ => rfl
  | .float _, h, w => eq_ofFloat h w
  | .list xs, h, w => by
    cases w with
    | list ys => exact eqList_fromColumn h ys
    | _ => rfl
  | .dict kvs, h, w => by
    cases w with
    | dict other =>
      rw [fromColumn, eq, eq, length_fromColumnItems, eqDict_fromColumn h other]
    | _ => rfl

theorem eqList_fromColumn : ∀ {xs : List Value}, keepsFloatsList xs = true →
    ∀ ys, eqList (fromColumnList xs) ys = eqList xs ys
  | [], _, _ => rfl
  | x :: xs, h, ys => by
    rw [keepsFloatsList, Bool.and_eq_true] at h
    cases ys with
    | nil => rfl
    | cons y ys => rw [fromColumnList, eqList, eqList, eq_fromColumn h.1, eqList_fromColumn h.2]

theorem eqDict_fromColumn : ∀ {kvs : Dict}, keepsFloatsItems kvs = true →
    ∀ other, eqDict (fromColumnItems kvs) other = eqDict kvs other
  | [], _, _ => rfl
  | (k, v) :: rest, h, other => by
    rw [keepsFloatsItems, Bool.and_eq_true] at h
    rw [fromColumnItems, eqDict, eqDict, eqDict_fromColumn h.2]
    cases other.lookup k with
    | none => rfl
    | some w => simp only [eq_fromColumn h.1 w]

end

end Value

end Py
