import Mathlib.Data.Rat.Defs
import Mathlib.Data.List.Basic
import Mathlib.Tactic.Common

/-!
# A fragment of JSON Schema

The keywords `type`, `enum`, `anyOf`, `minimum`, `maximum`, `maxLength`, `minItems`, `maxItems`,
`items`, `properties` and `required`, with `additionalProperties` false. A validator sees a value
through a `View`, so that the values may be of any type.

* `Schema.conforms`: the validator.
* `conforms_object`, `conforms_array` and the like: what it means for a value to conform.
-/

namespace JsonSchema

/-- What a validator sees of a value. A key that is no string is `none`; a number that is not
finite is `none`. -/
inductive View (α : Type) where
  | null
  | boolean (b : Bool)
  | number (q : Option ℚ)
  | string (s : String)
  | array (items : List α)
  | object (members : List (Option String × α))
  | other

inductive Schema where
  | null
  | boolean
  | number (minimum maximum : ℚ)
  | string (enum : Option (List String)) (maxLength : Option ℕ)
  | array (minItems maxItems : ℕ) (items : Schema)
  | object (properties : List (String × Schema)) (required : List String)
  | anyOf (alternatives : List Schema)

variable {α : Type} (view : α → View α)

mutual

/-- The value meets the schema. -/
def Schema.conforms : Schema → α → Bool
  | .null, v => match view v with
    | .null => true
    | _ => false
  | .boolean, v => match view v with
    | .boolean _ => true
    | _ => false
  | .number minimum maximum, v => match view v with
    | .number (some q) => decide (minimum ≤ q) && decide (q ≤ maximum)
    | _ => false
  | .string enum maxLength, v => match view v with
    | .string s => enum.all (·.contains s) && maxLength.all (s.length ≤ ·)
    | _ => false
  | .array minItems maxItems items, v => match view v with
    | .array xs =>
      decide (minItems ≤ xs.length) && decide (xs.length ≤ maxItems) && xs.all items.conforms
    | _ => false
  | .object properties required, v => match view v with
    | .object members =>
      members.all (fun m => m.1.any (properties.map (·.1)).contains) &&
        required.all (fun k => members.any (·.1 == some k)) && propertiesConform properties members
    | _ => false
  | .anyOf alternatives, v => anyConforms alternatives v

/-- `properties`: each one that is present meets its schema. -/
def propertiesConform : List (String × Schema) → List (Option String × α) → Bool
  | [], _ => true
  | (k, schema) :: rest, members =>
    (match members.lookup (some k) with
      | some v => schema.conforms v
      | none => true) && propertiesConform rest members

/-- `anyOf`. -/
def anyConforms : List Schema → α → Bool
  | [], _ => false
  | schema :: rest, v => schema.conforms v || anyConforms rest v

end

variable {view : α → View α} {v : α}

theorem conforms_null : Schema.null.conforms view v = true ↔ view v = .null := by
  rw [Schema.conforms]
  cases view v <;> simp

theorem conforms_boolean : Schema.boolean.conforms view v = true ↔ ∃ b, view v = .boolean b := by
  rw [Schema.conforms]
  cases view v <;> simp

theorem conforms_number {minimum maximum : ℚ} :
    (Schema.number minimum maximum).conforms view v = true ↔
      ∃ q, view v = .number (some q) ∧ minimum ≤ q ∧ q ≤ maximum := by
  rw [Schema.conforms]
  cases view v with
  | number q => cases q <;> simp
  | _ => simp

theorem conforms_string {enum : Option (List String)} {maxLength : Option ℕ} :
    (Schema.string enum maxLength).conforms view v = true ↔
      ∃ s, view v = .string s ∧ (∀ allowed, enum = some allowed → s ∈ allowed) ∧
        ∀ n, maxLength = some n → s.length ≤ n := by
  rw [Schema.conforms]
  cases view v with
  | string s => cases enum <;> cases maxLength <;> simp
  | _ => simp

theorem conforms_array {minItems maxItems : ℕ} {items : Schema} :
    (Schema.array minItems maxItems items).conforms view v = true ↔
      ∃ xs, view v = .array xs ∧ minItems ≤ xs.length ∧ xs.length ≤ maxItems ∧
        ∀ x ∈ xs, items.conforms view x = true := by
  rw [Schema.conforms]
  cases view v with
  | array xs => simp [and_assoc]
  | _ => simp

/-- Each property that is present meets its schema. -/
theorem propertiesConform_iff {members : List (Option String × α)} :
    ∀ {properties : List (String × Schema)}, propertiesConform view properties members = true ↔
      ∀ p ∈ properties, ∀ x, members.lookup (some p.1) = some x → p.2.conforms view x = true := by
  intro properties
  induction properties with
  | nil => simp [propertiesConform]
  | cons p rest ih =>
    obtain ⟨k, schema⟩ := p
    rw [propertiesConform, Bool.and_eq_true, ih, List.forall_mem_cons]
    cases members.lookup (some k) <;> simp

theorem conforms_object {properties : List (String × Schema)} {required : List String} :
    (Schema.object properties required).conforms view v = true ↔
      ∃ members, view v = .object members ∧
        members.all (fun m => m.1.any (properties.map (·.1)).contains) = true ∧
        required.all (fun k => members.any (·.1 == some k)) = true ∧
        ∀ p ∈ properties, ∀ x, members.lookup (some p.1) = some x → p.2.conforms view x = true := by
  rw [Schema.conforms]
  cases view v with
  | object members => simp only [Bool.and_eq_true, propertiesConform_iff, and_assoc]; simp
  | _ => simp

theorem conforms_anyOf {alternatives : List Schema} :
    (Schema.anyOf alternatives).conforms view v = true ↔
      ∃ schema ∈ alternatives, schema.conforms view v = true := by
  rw [Schema.conforms]
  induction alternatives with
  | nil => simp [anyConforms]
  | cons schema rest ih => rw [anyConforms, Bool.or_eq_true, ih, List.exists_mem_cons_iff]

end JsonSchema
