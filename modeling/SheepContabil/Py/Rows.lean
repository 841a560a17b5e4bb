import Mathlib.Data.List.Basic

/-!
# Tables as lists

A table whose rows are numbered in the order of their inserts is a list: the id of a row is its
place, an insert appends, and an update sets a place. What is found after a write was there before
it, or is what the write has put there.
-/

namespace Rows

variable {α : Type*} {rows more : List α} {x y : α} {i j : ℕ}

/-- An insert keeps the rows that are there. -/
theorem append_some (h : rows[i]? = some x) : (rows ++ more)[i]? = some x := by
  rw [List.getElem?_append_left (List.getElem?_eq_some_iff.1 h).1]
  exact h

/-- A row after an insert is an old row or the new one. -/
theorem append_cases (h : (rows ++ [x])[i]? = some y) :
    rows[i]? = some y ∨ i = rows.length ∧ y = x := by
  rcases Nat.lt_or_ge i rows.length with hlt | hge
  · rw [List.getElem?_append_left hlt] at h
    exact .inl h
  · rw [List.getElem?_append_right hge] at h
    have hmem : y = x := List.mem_singleton.1 (List.mem_of_getElem? h)
    have hlen := (List.getElem?_eq_some_iff.1 h).1
    rw [List.length_singleton] at hlen
    exact .inr ⟨by omega, hmem⟩

/-- The row that is written. -/
theorem set_self (h : rows[i]? = some y) : (rows.set i x)[i]? = some x :=
  List.getElem?_set_self (List.getElem?_eq_some_iff.1 h).1

/-- A row after an update is the one that is written, or another one as it was. -/
theorem set_cases (h : (rows.set i x)[j]? = some y) :
    j = i ∧ y = x ∨ j ≠ i ∧ rows[j]? = some y := by
  by_cases heq : i = j
  · subst heq
    have hlen := (List.getElem?_eq_some_iff.1 h).1
    rw [List.length_set] at hlen
    rw [List.getElem?_set_self hlen] at h
    exact .inl ⟨rfl, (Option.some.inj h).symm⟩
  · rw [List.getElem?_set_ne heq] at h
    exact .inr ⟨Ne.symm heq, h⟩

end Rows
