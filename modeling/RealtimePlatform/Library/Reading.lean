import Mathlib.Data.List.TakeWhile

/-!
# Reading a list by position

A reader goes through a list with a position in it. `Reads s i w j` says that `w` stands between two positions, and
`Ends` is what is known of a step: where it stops, with what, or how it fails.
-/

namespace RealtimePlatform.Library

/-- From position `i` the list `s` has `w`, and then comes position `j`. -/
def Reads {α : Type*} (s : List α) (i : Nat) (w : List α) (j : Nat) : Prop := s.drop i = w ++ s.drop j ∧ j = i + w.length

namespace Reads

variable {α : Type*} {s : List α} {i j k : Nat} {w v : List α}

theorem nil : Reads s i [] i := ⟨rfl, rfl⟩

theorem of_drop {rest : List α} (shape : s.drop i = w ++ rest) : Reads s i w (i + w.length) ∧ s.drop (i + w.length) = rest := by
  have later : s.drop (i + w.length) = rest := by rw [← List.drop_drop, shape, List.drop_left]
  exact ⟨⟨by rw [later, shape], rfl⟩, later⟩

theorem le (read : Reads s i w j) : i ≤ j := by
  rw [read.2]
  exact Nat.le_add_right i w.length

theorem append (first : Reads s i w j) (second : Reads s j v k) : Reads s i (w ++ v) k := by
  constructor
  · rw [first.1, second.1, List.append_assoc]
  · rw [second.2, first.2, List.length_append, Nat.add_assoc]

theorem split (whole : Reads s i (w ++ v) k) : ∃ j, Reads s i w j ∧ Reads s j v k := by
  have shape := whole.1
  rw [List.append_assoc] at shape
  obtain ⟨first, later⟩ := of_drop shape
  refine ⟨i + w.length, first, later, ?_⟩
  rw [whole.2, List.length_append, Nat.add_assoc]

theorem cons {a : α} (whole : Reads s i (a :: w) k) : Reads s i [a] (i + 1) ∧ Reads s (i + 1) w k := by
  obtain ⟨j, first, second⟩ := split (w := [a]) whole
  obtain rfl : j = i + 1 := first.2
  exact ⟨first, second⟩

theorem getElem?_eq {a : α} (read : Reads s i (a :: w) j) : s[i]? = some a := by
  rw [← List.head?_drop, read.1]
  rfl

theorem getElem?_of_drop {a : α} {rest : List α} (shape : s.drop i = a :: rest) : s[i]? = some a :=
  getElem?_eq (of_drop (w := [a]) shape).1

theorem lt_length {a : α} (read : Reads s i (a :: w) j) : i < s.length :=
  (List.getElem?_eq_some_iff.mp read.getElem?_eq).1

theorem le_length (read : Reads s i w j) (some' : w ≠ []) : j ≤ s.length := by
  have size := congrArg List.length read.1
  have positive := List.length_pos_iff.mpr some'
  simp only [List.length_append, List.length_drop] at size
  have := read.2
  omega

theorem of_getElem? {a : α} (here : s[i]? = some a) : Reads s i [a] (i + 1) := by
  obtain ⟨bound, rfl⟩ := List.getElem?_eq_some_iff.mp here
  exact ⟨List.drop_eq_getElem_cons bound, rfl⟩

theorem takeWhile (p : α → Bool) : Reads s i ((s.drop i).takeWhile p) (i + ((s.drop i).takeWhile p).length) :=
  (of_drop List.takeWhile_append_dropWhile.symm).1

theorem takeWhile_eq {p : α → Bool} (read : Reads s i w j) (holds : ∀ a ∈ w, p a = true)
    (stop : ∀ a ∈ s[j]?, p a = false) : (s.drop i).takeWhile p = w := by
  rw [read.1, List.takeWhile_append_of_pos holds]
  cases rest : s.drop j with
  | nil => simp
  | cons a more =>
    have first : s[j]? = some a := by rw [← List.head?_drop, rest]; rfl
    simp [stop a first]

theorem not_at_takeWhile (p : α → Bool) : ∀ a ∈ s[i + ((s.drop i).takeWhile p).length]?, p a = false := by
  intro a here
  have rest := (of_drop (s := s) (i := i) (List.takeWhile_append_dropWhile (p := p)).symm).2
  rw [← List.head?_drop, rest] at here
  cases test : p a with
  | false => rfl
  | true =>
    have refused := List.head?_dropWhile_not p (s.drop i)
    rw [here] at refused
    simp [test] at refused

end Reads

/-- What a reading step comes to: a result that `done` knows with the position after it, or an error that `failed`
knows. -/
def Ends {α ε : Type*} (step : Except ε (α × Nat)) (done : α → Nat → Prop) (failed : ε → Prop) : Prop :=
  match step with
  | .ok (a, i) => done a i
  | .error e => failed e

namespace Ends

universe u

variable {α β : Type u} {ε : Type*} {done : α → Nat → Prop} {failed : ε → Prop}

theorem mono {done' : α → Nat → Prop} {failed' : ε → Prop} {step : Except ε (α × Nat)} (ends : Ends step done failed)
    (onDone : ∀ a i, done a i → done' a i) (onFailed : ∀ e, failed e → failed' e) : Ends step done' failed' := by
  rcases step with e | ⟨a, i⟩
  · exact onFailed e ends
  · exact onDone a i ends

theorem bind {done' : β → Nat → Prop} {failed' : ε → Prop} {step : Except ε (α × Nat)}
    {next : α × Nat → Except ε (β × Nat)} (first : Ends step done failed) (onFailed : ∀ e, failed e → failed' e)
    (later : ∀ a i, done a i → Ends (next (a, i)) done' failed') : Ends (step >>= next) done' failed' := by
  rcases step with e | ⟨a, i⟩
  · exact onFailed e first
  · exact later a i first

end Ends
end RealtimePlatform.Library
