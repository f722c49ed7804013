import Mathlib.Data.List.Induction
import Mathlib.Data.List.Count

namespace RealtimePlatform.Library
variable {α : Type*} {p : α → Bool} {l : List α}

/-- The elements at even positions satisfy `p` and those at odd positions do not. -/
def Alternates (p : α → Bool) (l : List α) : Prop :=
  ∀ i a, l[i]? = some a → (p a = true ↔ i % 2 = 0)

theorem alternates_nil : Alternates p [] := by
  intro i a found
  simp at found

theorem alternates_concat {a : α} :
    Alternates p (l ++ [a]) ↔ Alternates p l ∧ (p a = true ↔ l.length % 2 = 0) := by
  constructor
  · intro alternates
    refine ⟨fun i b found => ?_, ?_⟩
    · apply alternates i b
      rwa [List.getElem?_append_left (List.getElem?_eq_some_iff.mp found).1]
    · exact alternates l.length a (by simp)
  · rintro ⟨alternates, last⟩ i b found
    by_cases inside : i < l.length
    · rw [List.getElem?_append_left inside] at found
      exact alternates i b found
    · have bound := (List.getElem?_eq_some_iff.mp found).1
      rw [List.length_append, List.length_singleton] at bound
      obtain rfl : i = l.length := by omega
      rw [List.getElem?_concat_length, Option.some.injEq] at found
      exact found ▸ last

theorem Alternates.countP_eq (alternates : Alternates p l) : l.countP p = (l.length + 1) / 2 := by
  induction l using List.reverseRecOn with
  | nil => simp
  | append_singleton l a ih =>
      obtain ⟨before, last⟩ := alternates_concat.mp alternates
      rw [List.countP_append, ih before, List.countP_singleton, List.length_append,
        List.length_singleton]
      by_cases even : l.length % 2 = 0
      · rw [if_pos (last.mpr even)]
        omega
      · rw [if_neg fun on => even (last.mp on)]
        omega

theorem Alternates.balanced_iff (alternates : Alternates p l) :
    l.countP p = l.countP (fun a => !p a) ↔ l.length % 2 = 0 := by
  have whole := List.length_eq_countP_add_countP p (l := l)
  have rest : (fun a => !p a) = fun a => decide ¬ p a = true := by
    funext a
    simp
  rw [rest]
  have half := alternates.countP_eq
  omega

end RealtimePlatform.Library
