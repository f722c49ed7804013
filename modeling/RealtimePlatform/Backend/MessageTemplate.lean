import RealtimePlatform.Backend.Realtime
import RealtimePlatform.Library.Placeholders

/-!
# Message templates

`render` works on offsets in bytes, as `str::find` returns them; a slice at an offset within a character
panics. Of a template it reads the body.
-/

namespace RealtimePlatform.Backend
open Library
open Utf16 (utf8Length)

structure MessageTemplate where
  body : String

def valueOf (values : Table String String) (inner : List Char) : List Char :=
  match AList.lookup (String.ofList (trim inner)) values with
  | some value => value.toList
  | none => []

/-- The loop of `render`, with what is written and what is left of the body; none where a slice panics. -/
def renderLoop (values : Table String String) (out rest : List Char) : Option (List Char) :=
  match find (twice '{') rest with
  | none => some (out ++ rest)
  | some start =>
    match sliceTo start rest, _opened : sliceFrom (start + 2) rest with
    | some literal, some afterOpen =>
      match find (twice '}') afterOpen with
      | some stop =>
        match sliceTo stop afterOpen, _closed : sliceFrom (stop + 2) afterOpen with
        | some inner, some rest => renderLoop values (out ++ literal ++ valueOf values inner) rest
        | _, _ => none
      | none => renderLoop values (out ++ literal ++ twice '{') afterOpen
    | _, _ => none
termination_by utf8Length rest
decreasing_by
  · have outer := utf8Length_sliceFrom _opened
    have within := utf8Length_sliceFrom _closed
    omega
  · have outer := utf8Length_sliceFrom _opened
    omega

def MessageTemplate.render (template : MessageTemplate) (values : Table String String) : Option String :=
  (renderLoop values [] template.body.toList).map String.ofList

def filledIn (values : Table String String) (parts : List (List Char × List Char) × List Char) : List Char :=
  (parts.1.flatMap fun (literal, inner) => literal ++ valueOf values inner) ++ parts.2

section
variable {values : Table String String} {out rest literal after inner : List Char}

theorem utf8Length_twice (c : Char) (one : c.utf8Size = 1) (s : List Char) :
    utf8Length (s ++ twice c) = utf8Length s + 2 := by
  simp [twice, one]

theorem slices_of_firstAt {c : Char} (one : c.utf8Size = 1) {s : List Char}
    (first : FirstAt (twice c) literal after s) : find (twice c) s = some (utf8Length literal) ∧
      sliceTo (utf8Length literal) s = some literal ∧ sliceFrom (utf8Length literal + 2) s = some after := by
  have found := breakAt_eq_some_iff.mpr first
  obtain ⟨rfl, _⟩ := first
  refine ⟨by rw [find_eq, found, Option.map_some], ?_, ?_⟩
  · rw [List.append_assoc, sliceTo_append]
  · rw [← utf8Length_twice c one, sliceFrom_append]

theorem renderLoop_of_no_opening (none : ¬ twice '{' <:+: rest) :
    renderLoop values out rest = some (out ++ rest) := by
  have nowhere : find (twice '{') rest = Option.none := by
    rw [find_eq, breakAt_eq_none_iff.mpr none, Option.map_none]
  rw [renderLoop, nowhere]

theorem renderLoop_of_unclosed (begins : FirstAt (twice '{') literal after rest)
    (none : ¬ twice '}' <:+: after) :
    renderLoop values out rest = renderLoop values (out ++ literal ++ twice '{') after := by
  have nowhere : find (twice '}') after = Option.none := by
    rw [find_eq, breakAt_eq_none_iff.mpr none, Option.map_none]
  obtain ⟨found, before, behind⟩ := slices_of_firstAt (by decide) begins
  rw [renderLoop, found]
  dsimp only
  split
  · rename_i literal' after' same same'
    rw [before, Option.some.injEq] at same
    rw [behind, Option.some.injEq] at same'
    subst same same'
    rw [nowhere]
  · rename_i apart
    exact absurd behind (apart literal after before)

theorem renderLoop_of_first (begins : FirstAt (twice '{') literal after rest) {rest' : List Char}
    (ends : FirstAt (twice '}') inner rest' after) : renderLoop values out rest =
      renderLoop values (out ++ literal ++ valueOf values inner) rest' := by
  obtain ⟨found, before, behind⟩ := slices_of_firstAt (by decide) begins
  obtain ⟨found', before', behind'⟩ := slices_of_firstAt (by decide) ends
  rw [renderLoop, found]
  dsimp only
  split
  · rename_i literal' after' same same'
    rw [before, Option.some.injEq] at same
    rw [behind, Option.some.injEq] at same'
    subst same same'
    rw [found']
    dsimp only
    split
    · rename_i inner' rest'' same same'
      rw [before', Option.some.injEq] at same
      rw [behind', Option.some.injEq] at same'
      subst same same'
      rfl
    · rename_i apart
      exact absurd behind' (apart inner rest' before')
  · rename_i apart
    exact absurd behind (apart literal after before)

theorem renderLoop_eq (out rest : List Char) :
    renderLoop values out rest = some (out ++ filledIn values (placeholders '{' '}' rest)) := by
  induction size : rest.length using Nat.strong_induction_on generalizing out rest with
  | _ n ih =>
      cases found : breakAt (twice '{') rest with
      | none =>
          have none := breakAt_eq_none_iff.mp found
          rw [renderLoop_of_no_opening none,
            placeholders_of_open fun literal after begins => absurd ⟨literal, after, begins.1.symm⟩ none]
          simp [filledIn]
      | some parts =>
          obtain ⟨literal, after⟩ := parts
          have begins := firstAt_of_breakAt found
          have outer := length_breakAt found
          simp only [twice, List.length_cons, List.length_nil] at outer
          cases ended : breakAt (twice '}') after with
          | none =>
              have none := breakAt_eq_none_iff.mp ended
              -- Where the scan goes on behind an unclosed opening it finds no placeholder either.
              have unclosed : placeholders '{' '}' after = ([], after) :=
                placeholders_of_open fun l a inner infix_ => none (infix_.trans ⟨l ++ twice '{', [], by
                  rw [inner.1, List.append_nil]⟩)
              rw [renderLoop_of_unclosed begins none, ih after.length (by omega) _ _ rfl, unclosed,
                placeholders_of_open fun _ _ other => (begins.unique other).2 ▸ none, begins.1]
              simp [filledIn]
          | some parts =>
              obtain ⟨inner, rest'⟩ := parts
              have ends := firstAt_of_breakAt ended
              have within := length_breakAt ended
              simp only [twice, List.length_cons, List.length_nil] at within
              rw [renderLoop_of_first begins ends, ih rest'.length (by omega) _ _ rfl,
                placeholders_of_first begins ends]
              simp [filledIn]

theorem render_eq (template : MessageTemplate) (values : Table String String) : template.render values =
    some (String.ofList (filledIn values (placeholders '{' '}' template.body.toList))) := by
  rw [MessageTemplate.render, renderLoop_eq, Option.map_some, List.nil_append]

end
end RealtimePlatform.Backend
