import RealtimePlatform.Library.Utf16

/-!
# Searching a text

Where a word first occurs in a list of symbols, and the same as offsets in bytes into a text of UTF-8 with
the slices that such offsets cut.
-/

namespace RealtimePlatform.Library

section
variable {α : Type*}

def FirstAt (word before after s : List α) : Prop :=
  s = before ++ word ++ after ∧ ∀ before' after', s = before' ++ word ++ after' → before.length ≤ before'.length

theorem FirstAt.unique {word before after before' after' s : List α} (first : FirstAt word before after s)
    (other : FirstAt word before' after' s) : before = before' ∧ after = after' := by
  have short := first.2 before' after' other.1
  have long := other.2 before after first.1
  have same := first.1.symm.trans other.1
  rw [List.append_assoc, List.append_assoc] at same
  obtain ⟨left, right⟩ := List.append_inj same (Nat.le_antisymm short long)
  exact ⟨left, List.append_cancel_left right⟩

theorem firstAt_cons_iff {word before after s : List α} {x : α} (later : ¬ word <+: x :: s) :
    FirstAt word (x :: before) after (x :: s) ↔ FirstAt word before after s := by
  have shifted : ∀ {b a : List α}, x :: s = b ++ word ++ a → ∃ b', b = x :: b' ∧ s = b' ++ word ++ a := by
    intro b a same
    cases b with
    | nil => exact absurd ⟨a, same.symm⟩ later
    | cons y b =>
        obtain ⟨rfl, rest⟩ := List.cons.inj same
        exact ⟨b, rfl, rest⟩
  constructor
  · rintro ⟨same, first⟩
    refine ⟨(List.cons.inj same).2, fun b a split => ?_⟩
    have le := first (x :: b) a (by rw [split]; rfl)
    simpa using le
  · rintro ⟨rfl, first⟩
    refine ⟨rfl, fun b a split => ?_⟩
    obtain ⟨b', rfl, rest⟩ := shifted split
    exact Nat.succ_le_succ (first b' a rest)

variable [DecidableEq α]

def breakAt (word : List α) : List α → Option (List α × List α)
  | [] => if word = [] then some ([], []) else none
  | x :: xs =>
    if word <+: x :: xs then some ([], (x :: xs).drop word.length)
    else (breakAt word xs).map fun (before, after) => (x :: before, after)

theorem firstAt_of_breakAt {word s before after : List α} (found : breakAt word s = some (before, after)) :
    FirstAt word before after s := by
  induction s generalizing before with
  | nil =>
      rw [breakAt] at found
      split at found
      · rename_i empty
        cases found
        exact ⟨by simp [empty], fun _ _ _ => Nat.zero_le _⟩
      · cases found
  | cons x xs ih =>
      rw [breakAt] at found
      split at found
      · rename_i here
        cases found
        refine ⟨?_, fun _ _ _ => Nat.zero_le _⟩
        rw [List.nil_append]
        exact (List.prefix_iff_eq_append.mp here).symm
      · rename_i later
        obtain ⟨⟨b, a⟩, inner, same⟩ := Option.map_eq_some_iff.mp found
        cases same
        exact (firstAt_cons_iff later).mpr (ih inner)

theorem breakAt_eq_none_iff {word s : List α} : breakAt word s = none ↔ ¬ word <:+: s := by
  induction s with
  | nil => simp [breakAt]
  | cons x xs ih =>
      rw [breakAt, List.infix_cons_iff, not_or]
      split
      · rename_i here
        exact iff_of_false (by simp) (fun both => both.1 here)
      · rename_i later
        rw [Option.map_eq_none_iff, ih, and_iff_right later]

theorem breakAt_eq_some_iff {word s before after : List α} :
    breakAt word s = some (before, after) ↔ FirstAt word before after s := by
  constructor
  · exact firstAt_of_breakAt
  · intro first
    cases found : breakAt word s with
    | none => exact absurd ⟨before, after, first.1.symm⟩ (breakAt_eq_none_iff.mp found)
    | some parts =>
        obtain ⟨left, right⟩ := (firstAt_of_breakAt found).unique first
        rw [← left, ← right]

theorem length_breakAt {word s before after : List α} (found : breakAt word s = some (before, after)) :
    before.length + word.length + after.length = s.length := by
  rw [(firstAt_of_breakAt found).1, List.length_append, List.length_append]

end

open Utf16 (utf8Length)

/-- Where a word first occurs in a text. -/
def find (word : List Char) : List Char → Option Nat
  | [] => if word = [] then some 0 else none
  | c :: cs => if word <+: c :: cs then some 0 else (find word cs).map (c.utf8Size + ·)

def sliceTo (offset : Nat) : List Char → Option (List Char)
  | [] => if offset = 0 then some [] else none
  | c :: cs =>
    if offset = 0 then some []
    else if c.utf8Size ≤ offset then (sliceTo (offset - c.utf8Size) cs).map (c :: ·)
    else none

def sliceFrom (offset : Nat) : List Char → Option (List Char)
  | [] => if offset = 0 then some [] else none
  | c :: cs =>
    if offset = 0 then some (c :: cs)
    else if c.utf8Size ≤ offset then sliceFrom (offset - c.utf8Size) cs
    else none

theorem find_eq (word s : List Char) : find word s = (breakAt word s).map fun parts => utf8Length parts.1 := by
  induction s with
  | nil =>
      unfold find breakAt
      split <;> rfl
  | cons c cs ih =>
      unfold find breakAt
      split
      · rfl
      · rw [ih, Option.map_map, Option.map_map]
        exact Option.map_congr fun parts _ => (Utf16.utf8Length_cons c parts.1).symm

theorem sliceTo_append (before after : List Char) :
    sliceTo (utf8Length before) (before ++ after) = some before := by
  induction before with
  | nil => cases after <;> rfl
  | cons c cs ih =>
      have size := c.utf8Size_pos
      rw [Utf16.utf8Length_cons, List.cons_append, sliceTo, if_neg (by omega), if_pos (by omega),
        Nat.add_sub_cancel_left, ih, Option.map_some]

theorem sliceFrom_append (before after : List Char) :
    sliceFrom (utf8Length before) (before ++ after) = some after := by
  induction before with
  | nil => cases after <;> rfl
  | cons c cs ih =>
      have size := c.utf8Size_pos
      rw [Utf16.utf8Length_cons, List.cons_append, sliceFrom, if_neg (by omega), if_pos (by omega),
        Nat.add_sub_cancel_left, ih]

theorem utf8Length_sliceFrom {offset : Nat} {s rest : List Char} (found : sliceFrom offset s = some rest) :
    offset + utf8Length rest = utf8Length s := by
  induction s generalizing offset with
  | nil =>
      unfold sliceFrom at found
      split at found
      · cases found
        simpa using ‹offset = 0›
      · cases found
  | cons c cs ih =>
      unfold sliceFrom at found
      split at found
      · cases found
        rw [‹offset = 0›, Nat.zero_add]
      · split at found
        · have tail := ih found
          rw [Utf16.utf8Length_cons]
          omega
        · cases found

end RealtimePlatform.Library
