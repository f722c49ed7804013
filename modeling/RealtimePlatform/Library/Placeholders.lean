import RealtimePlatform.Library.TextSearch

/-!
# Placeholders in a text

A placeholder is a text between two opening and two closing braces. A text is cut at its placeholders from
left to right, each taken up to the first closing braces there are.
-/

namespace RealtimePlatform.Library

def twice {α : Type*} (x : α) : List α := [x, x]

section
variable {α : Type*} [DecidableEq α] {opening closing : α}

/-- Every closed placeholder with the text before it, and the text behind the last. -/
def placeholders (opening closing : α) (s : List α) : List (List α × List α) × List α :=
  match _found : breakAt (twice opening) s with
  | none => ([], s)
  | some (literal, after) =>
    match _ended : breakAt (twice closing) after with
    | none => ([], s)
    | some (inner, rest) =>
      ((literal, inner) :: (placeholders opening closing rest).1, (placeholders opening closing rest).2)
termination_by s.length
decreasing_by
  all_goals
    have outer := length_breakAt _found
    have within := length_breakAt _ended
    simp only [twice, List.length_cons, List.length_nil] at outer within
    omega

/-- What it means to be cut at the placeholders. -/
inductive Decomposes (opening closing : α) : List α → List (List α × List α) → List α → Prop where
  | tail {s} (open_ : ∀ a b c, s ≠ a ++ twice opening ++ b ++ twice closing ++ c) :
      Decomposes opening closing s [] s
  | cons {s literal after inner rest ps tail} (begins : FirstAt (twice opening) literal after s)
      (ends : FirstAt (twice closing) inner rest after) (later : Decomposes opening closing rest ps tail) :
      Decomposes opening closing s ((literal, inner) :: ps) tail

omit [DecidableEq α] in
theorem open_of_first {s literal after : List α} (begins : FirstAt (twice opening) literal after s)
    (ended : ¬ twice closing <:+: after) (a b c : List α) :
    s ≠ a ++ twice opening ++ b ++ twice closing ++ c := by
  intro same
  have le := begins.2 a (b ++ twice closing ++ c) (by rw [same]; simp)
  have whole : literal ++ twice opening ++ after = a ++ twice opening ++ (b ++ twice closing ++ c) := by
    rw [← begins.1, same]
    simp
  have width : ∀ u : List α, (u ++ twice opening).length = u.length + 2 := fun u => by simp [twice]
  have rest := congrArg (List.drop (a ++ twice opening).length) whole
  rw [List.drop_left, List.drop_append, List.drop_eq_nil_of_le (by rw [width, width]; omega),
    List.nil_append] at rest
  exact ended (List.IsInfix.trans ⟨b, c, rest.symm⟩ (List.drop_suffix _ after).isInfix)

omit [DecidableEq α] in
theorem open_of_no_opening {s : List α} (none : ¬ twice opening <:+: s) (a b c : List α) :
    s ≠ a ++ twice opening ++ b ++ twice closing ++ c := by
  rintro rfl
  exact none ⟨a, b ++ twice closing ++ c, by simp⟩

theorem placeholders_of_open {s : List α}
    (open_ : ∀ literal after, FirstAt (twice opening) literal after s → ¬ twice closing <:+: after) :
    placeholders opening closing s = ([], s) := by
  rw [placeholders]
  split
  · rfl
  · rename_i literal after found
    rw [breakAt_eq_none_iff.mpr (open_ literal after (firstAt_of_breakAt found))]

theorem placeholders_of_first {s literal after inner rest : List α}
    (begins : FirstAt (twice opening) literal after s) (ends : FirstAt (twice closing) inner rest after) :
    placeholders opening closing s =
      ((literal, inner) :: (placeholders opening closing rest).1, (placeholders opening closing rest).2) := by
  rw [placeholders, breakAt_eq_some_iff.mpr begins]
  dsimp only
  rw [breakAt_eq_some_iff.mpr ends]

theorem decomposes_placeholders (s : List α) :
    Decomposes opening closing s (placeholders opening closing s).1 (placeholders opening closing s).2 := by
  induction size : s.length using Nat.strong_induction_on generalizing s with
  | _ n ih =>
      cases found : breakAt (twice opening) s with
      | none =>
          have none := breakAt_eq_none_iff.mp found
          rw [placeholders_of_open fun literal after begins => absurd ⟨literal, after, begins.1.symm⟩ none]
          exact .tail (open_of_no_opening none)
      | some parts =>
          obtain ⟨literal, after⟩ := parts
          have begins := firstAt_of_breakAt found
          cases ended : breakAt (twice closing) after with
          | none =>
              have none := breakAt_eq_none_iff.mp ended
              rw [placeholders_of_open fun _ _ other => (begins.unique other).2 ▸ none]
              exact .tail (open_of_first begins none)
          | some parts =>
              obtain ⟨inner, rest⟩ := parts
              have ends := firstAt_of_breakAt ended
              have outer := length_breakAt found
              have within := length_breakAt ended
              simp only [twice, List.length_cons, List.length_nil] at outer within
              rw [placeholders_of_first begins ends]
              exact .cons begins ends (ih rest.length (by omega) rest rfl)

omit [DecidableEq α] in
theorem Decomposes.unique {s tail tail' : List α} {ps ps' : List (List α × List α)}
    (one : Decomposes opening closing s ps tail) (other : Decomposes opening closing s ps' tail') :
    ps' = ps ∧ tail' = tail := by
  have closes : ∀ {s literal after inner rest : List α}, FirstAt (twice opening) literal after s →
      FirstAt (twice closing) inner rest after →
      s = literal ++ twice opening ++ inner ++ twice closing ++ rest := by
    rintro s literal after inner rest ⟨rfl, _⟩ ⟨rfl, _⟩
    simp
  induction one generalizing ps' tail' with
  | tail open_ =>
      cases other with
      | tail _ => exact ⟨rfl, rfl⟩
      | cons begins ends _ => exact absurd (closes begins ends) (open_ _ _ _)
  | cons begins ends later ih =>
      cases other with
      | tail open_ => exact absurd (closes begins ends) (open_ _ _ _)
      | cons begins' ends' later' =>
          obtain ⟨rfl, rfl⟩ := begins.unique begins'
          obtain ⟨rfl, rfl⟩ := ends.unique ends'
          obtain ⟨rfl, rfl⟩ := ih later'
          exact ⟨rfl, rfl⟩

omit [DecidableEq α] in
theorem firstAt_of_notMem {before : List α} (absent : closing ∉ before) (after : List α) :
    FirstAt (twice closing) before after (before ++ twice closing ++ after) := by
  refine ⟨rfl, fun b a split => Nat.le_of_not_lt fun short => absent ?_⟩
  have here : (before ++ twice closing ++ after)[b.length]? = some closing := by
    rw [split]
    simp [twice]
  rw [List.append_assoc, List.getElem?_append_left short] at here
  exact List.mem_of_getElem? here

end

end RealtimePlatform.Library
