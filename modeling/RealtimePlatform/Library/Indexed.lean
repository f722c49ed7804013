import Mathlib.Data.List.Basic

/-!
# Lists that are read by index

What stands at an index after one item has been changed or one has been added.
-/

namespace RealtimePlatform.Library

variable {α : Type*} {l : List α} {f : α → α} {i j : Nat}

theorem modify_cases {b : α} (found : (l.modify i f)[j]? = some b) :
    ∃ a, l[j]? = some a ∧ (j = i ∧ b = f a ∨ j ≠ i ∧ b = a) := by
  by_cases same : j = i
  · subst same
    rw [List.getElem?_modify_eq] at found
    obtain ⟨a, there, rfl⟩ := Option.map_eq_some_iff.mp found
    exact ⟨a, there, Or.inl ⟨rfl, rfl⟩⟩
  · rw [List.getElem?_modify_ne _ _ (Ne.symm same)] at found
    exact ⟨b, found, Or.inr ⟨same, rfl⟩⟩

theorem append_cases {last b : α} (found : (l ++ [last])[j]? = some b) :
    l[j]? = some b ∨ j = l.length ∧ b = last := by
  rw [List.getElem?_append] at found
  split at found
  · exact Or.inl found
  · rename_i beyond
    obtain ⟨bound, same⟩ := List.getElem?_eq_some_iff.mp found
    rw [List.length_singleton] at bound
    exact Or.inr ⟨by omega, by simpa using same.symm⟩

theorem getElem?_append_of_some {b : α} (there : l[j]? = some b) (more : List α) : (l ++ more)[j]? = some b :=
  (List.getElem?_append_left (List.getElem?_eq_some_iff.mp there).1).trans there

theorem exists_append {P : α → Prop} (a : α) (before : ∃ (j : Nat) (b : α), l[j]? = some b ∧ P b) :
    ∃ (j : Nat) (b : α), (l ++ [a])[j]? = some b ∧ P b := by
  obtain ⟨j, b, there, holds⟩ := before
  exact ⟨j, b, getElem?_append_of_some there [a], holds⟩

theorem exists_modify {P : α → Prop} (keeps : ∀ a, l[i]? = some a → P a → P (f a))
    (before : ∃ (j : Nat) (a : α), l[j]? = some a ∧ P a) : ∃ (j : Nat) (a : α), (l.modify i f)[j]? = some a ∧ P a := by
  obtain ⟨j, a, there, holds⟩ := before
  by_cases same : j = i
  · subst same
    exact ⟨j, f a, by rw [List.getElem?_modify_eq, there]; rfl, keeps a there holds⟩
  · exact ⟨j, a, by rw [List.getElem?_modify_ne _ _ (Ne.symm same), there], holds⟩

end RealtimePlatform.Library
