import Mathlib.Data.List.Basic

/-!
# Glob patterns

In a pattern one symbol, the star, stands for any substring; any other symbol stands for itself. What a
pattern matches is the same on the symbols and on their encodings, as long as one can tell where in an
encoded text a symbol begins.
-/

namespace RealtimePlatform.Library

section
variable {α : Type*} [DecidableEq α]

def glob (star : α) : List α → List α → Bool
  | [], c => c.isEmpty
  | p :: ps, c =>
    if p = star then (List.range (c.length + 1)).any fun i => glob star ps (c.drop i)
    else match c with
      | [] => false
      | x :: xs => x == p && glob star ps xs

theorem glob_star_iff {star : α} {ps c : List α} :
    glob star (star :: ps) c = true ↔ ∃ u v, c = u ++ v ∧ glob star ps v = true := by
  rw [glob.eq_def]
  simp only [if_true, List.any_eq_true]
  constructor
  · rintro ⟨i, _, hit⟩
    exact ⟨c.take i, c.drop i, (List.take_append_drop i c).symm, hit⟩
  · rintro ⟨u, v, rfl, hit⟩
    refine ⟨u.length, List.mem_range.mpr ?_, ?_⟩
    · rw [List.length_append]
      omega
    · rwa [List.drop_left]

theorem glob_cons {star p : α} (other : p ≠ star) (ps : List α) (x : α) (xs : List α) :
    glob star (p :: ps) (x :: xs) = (x == p && glob star ps xs) := by
  rw [glob, if_neg other]

theorem glob_append_iff {star : α} {word : List α} (literal : star ∉ word) {ps c : List α} :
    glob star (word ++ ps) c = true ↔ ∃ v, c = word ++ v ∧ glob star ps v = true := by
  induction word generalizing c with
  | nil =>
      constructor
      · intro hit
        exact ⟨c, rfl, hit⟩
      · rintro ⟨v, rfl, hit⟩
        exact hit
  | cons p word ih =>
      rw [List.mem_cons, not_or] at literal
      cases c with
      | nil =>
          rw [List.cons_append, glob, if_neg (Ne.symm literal.1)]
          constructor
          · intro hit
            cases hit
          · rintro ⟨v, same, _⟩
            cases same
      | cons x xs =>
          rw [List.cons_append, glob_cons (Ne.symm literal.1), Bool.and_eq_true, beq_iff_eq,
            ih literal.2]
          constructor
          · rintro ⟨rfl, v, rfl, hit⟩
            exact ⟨v, rfl, hit⟩
          · rintro ⟨v, same, hit⟩
            obtain ⟨rfl, rfl⟩ := List.cons.inj same
            exact ⟨rfl, v, rfl, hit⟩

theorem glob_self (star : α) (ps : List α) : glob star ps ps = true := by
  induction ps with
  | nil => rfl
  | cons p ps ih =>
      by_cases wild : p = star
      · subst wild
        exact glob_star_iff.mpr ⟨[p], ps, rfl, ih⟩
      · rw [glob_cons wild, beq_self_eq_true, Bool.true_and, ih]

omit [DecidableEq α] in
/-- The segments one after the other, with a filler between each two. -/
def woven : List (List α) → List (List α) → List α
  | [], _ => []
  | segment :: segments, [] => segment ++ woven segments []
  | segment :: segments, filler :: fillers => segment ++ filler ++ woven segments fillers

omit [DecidableEq α] in
theorem woven_modifyHead (p : α) {segments : List (List α)} (nonempty : segments ≠ [])
    (fillers : List (List α)) :
    woven (segments.modifyHead (p :: ·)) fillers = p :: woven segments fillers := by
  cases segments with
  | nil => exact absurd rfl nonempty
  | cons segment segments => cases fillers <;> simp [woven]

theorem glob_iff_woven {star : α} {ps c : List α} : glob star ps c = true ↔
    ∃ fillers, fillers.length + 1 = (ps.splitOn star).length ∧ c = woven (ps.splitOn star) fillers := by
  induction ps generalizing c with
  | nil =>
      rw [List.splitOn_nil, glob, List.isEmpty_iff]
      constructor
      · rintro rfl
        exact ⟨[], rfl, rfl⟩
      · rintro ⟨fillers, count, rfl⟩
        obtain rfl : fillers = [] := by simpa using count
        rfl
  | cons p ps ih =>
      have nonempty := List.splitOn_ne_nil star ps
      rw [List.splitOn_cons_eq_if_modifyHead]
      by_cases starred : p = star
      · rw [starred, if_pos (beq_self_eq_true star), glob_star_iff, List.length_cons]
        constructor
        · rintro ⟨u, v, rfl, hit⟩
          obtain ⟨fillers, count, rfl⟩ := ih.mp hit
          exact ⟨u :: fillers, by rw [List.length_cons, count], rfl⟩
        · rintro ⟨fillers, count, rfl⟩
          cases fillers with
          | nil =>
              have pos := List.length_pos_of_ne_nil nonempty
              rw [List.length_nil] at count
              omega
          | cons u fillers =>
              rw [List.length_cons, Nat.add_right_cancel_iff] at count
              exact ⟨u, _, rfl, ih.mpr ⟨fillers, count, rfl⟩⟩
      · rw [if_neg (by simpa using starred), List.length_modifyHead]
        simp only [woven_modifyHead p nonempty]
        cases c with
        | nil =>
            rw [glob, if_neg starred]
            constructor
            · intro hit
              cases hit
            · rintro ⟨_, _, same⟩
              cases same
        | cons x xs =>
            rw [glob_cons starred, Bool.and_eq_true, beq_iff_eq, ih]
            constructor
            · rintro ⟨rfl, fillers, count, rfl⟩
              exact ⟨fillers, count, rfl⟩
            · rintro ⟨fillers, count, same⟩
              obtain ⟨first, rest⟩ := List.cons.inj same
              exact ⟨first, fillers, count, rest⟩

theorem glob_literal_iff {star : α} {ps : List α} (literal : star ∉ ps) {c : List α} :
    glob star ps c = true ↔ c = ps := by
  have whole : glob star (ps ++ []) c = true ↔ _ := glob_append_iff literal
  rw [List.append_nil] at whole
  rw [whole]
  constructor
  · rintro ⟨v, rfl, hit⟩
    rw [glob, List.isEmpty_iff] at hit
    rw [hit, List.append_nil]
  · rintro rfl
    exact ⟨[], (List.append_nil _).symm, rfl⟩

end

structure SelfSynchronizing {α β : Type*} (encode : β → List α) (leads : α → Prop) : Prop where
  first : ∀ b, ∃ x more, encode b = x :: more ∧ leads x ∧ ∀ y ∈ more, ¬ leads y
  decodable : ∀ b c v w, encode b ++ v = encode c ++ w → b = c

namespace SelfSynchronizing
variable {α β : Type*} {encode : β → List α} {leads : α → Prop}

section
variable (sync : SelfSynchronizing encode leads)
include sync

theorem encode_ne_nil (b : β) : encode b ≠ [] := by
  obtain ⟨x, more, encoded, _⟩ := sync.first b
  rw [encoded]
  exact List.cons_ne_nil _ _

theorem split {cs : List β} {u v : List α} (parts : cs.flatMap encode = u ++ v) :
    (∃ front back, cs = front ++ back ∧ v = back.flatMap encode) ∨
      ∃ front c back y more, cs = front ++ c :: back ∧ ¬ leads y ∧
        v = y :: more ++ back.flatMap encode ∧ ∃ before, encode c = before ++ y :: more := by
  induction cs generalizing u with
  | nil =>
      obtain ⟨rfl, rfl⟩ := List.append_eq_nil_iff.mp parts.symm
      exact Or.inl ⟨[], [], rfl, rfl⟩
  | cons c cs ih =>
      rw [List.flatMap_cons] at parts
      rcases List.append_eq_append_iff.mp parts with ⟨rest, rfl, tail⟩ | ⟨rest, own, rfl⟩
      · rcases ih tail with ⟨front, back, rfl, same⟩ | ⟨front, d, back, y, more, rfl, inner⟩
        · exact Or.inl ⟨c :: front, back, rfl, same⟩
        · exact Or.inr ⟨c :: front, d, back, y, more, rfl, inner⟩
      · cases rest with
        | nil => exact Or.inl ⟨[c], cs, rfl, rfl⟩
        | cons y more =>
            cases u with
            | nil => exact Or.inl ⟨[], c :: cs, rfl, by rw [List.flatMap_cons, own, List.nil_append]⟩
            | cons x u =>
                obtain ⟨first, others, encoded, _, follow⟩ := sync.first c
                rw [own, List.cons_append] at encoded
                obtain ⟨_, rfl⟩ := List.cons.inj encoded
                exact Or.inr ⟨[], c, cs, y, more, rfl, follow y (by simp), rfl, x :: u, own⟩

end

variable [DecidableEq α] [DecidableEq β] {star : α} {wild : β} (alone : encode wild = [star])
  (only : ∀ b, star ∈ encode b → b = wild)
include alone only

theorem glob_of_glob_flatMap (sync : SelfSynchronizing encode leads) {ps cs : List β}
    (hit : glob star (ps.flatMap encode) (cs.flatMap encode) = true) : glob wild ps cs = true := by
  induction ps generalizing cs with
  | nil =>
      cases cs with
      | nil => rfl
      | cons c cs =>
          rw [List.flatMap_nil, glob, List.isEmpty_iff, List.flatMap_cons] at hit
          exact absurd (List.append_eq_nil_iff.mp hit).1 (sync.encode_ne_nil c)
  | cons p ps ih =>
      rw [List.flatMap_cons] at hit
      by_cases starred : p = wild
      · subst starred
        rw [alone, List.singleton_append] at hit
        obtain ⟨u, v, parts, rest⟩ := glob_star_iff.mp hit
        rcases sync.split parts with ⟨front, back, rfl, rfl⟩ |
          ⟨front, c, back, y, more, rfl, inner, rfl, before, own⟩
        · exact glob_star_iff.mpr ⟨front, back, rfl, ih rest⟩
        -- No literal begins within a symbol, and a star takes the whole of it.
        cases ps with
        | nil => cases rest
        | cons q ps =>
            rw [List.flatMap_cons] at rest
            by_cases again : q = p
            · subst again
              rw [alone, List.singleton_append] at rest
              obtain ⟨u', v', parts', rest'⟩ := glob_star_iff.mp rest
              refine glob_star_iff.mpr ⟨front, c :: back, rfl, ih ?_⟩
              rw [List.flatMap_cons, List.flatMap_cons, alone, List.singleton_append]
              refine glob_star_iff.mpr ⟨before ++ u', v', ?_, rest'⟩
              rw [own, List.append_assoc, parts', List.append_assoc]
            · obtain ⟨w, same, _⟩ := (glob_append_iff fun member => again (only q member)).mp rest
              obtain ⟨x, others, encoded, leading, _⟩ := sync.first q
              rw [encoded] at same
              exact absurd ((List.cons.inj same).1 ▸ leading) inner
      · obtain ⟨v, same, rest⟩ := (glob_append_iff fun member => starred (only p member)).mp hit
        cases cs with
        | nil => exact absurd (List.append_eq_nil_iff.mp same.symm).1 (sync.encode_ne_nil p)
        | cons c cs =>
            rw [List.flatMap_cons] at same
            obtain rfl := sync.decodable c p _ _ same
            rw [glob_cons starred, beq_self_eq_true, Bool.true_and]
            rw [← List.append_cancel_left same] at rest
            exact ih rest

theorem glob_flatMap_of_glob {ps cs : List β} (hit : glob wild ps cs = true) :
    glob star (ps.flatMap encode) (cs.flatMap encode) = true := by
  induction ps generalizing cs with
  | nil =>
      rw [glob, List.isEmpty_iff] at hit
      rw [hit]
      rfl
  | cons p ps ih =>
      rw [List.flatMap_cons]
      by_cases starred : p = wild
      · subst starred
        obtain ⟨u, v, rfl, rest⟩ := glob_star_iff.mp hit
        rw [alone, List.singleton_append, List.flatMap_append]
        exact glob_star_iff.mpr ⟨_, _, rfl, ih rest⟩
      · cases cs with
        | nil =>
            rw [glob, if_neg starred] at hit
            cases hit
        | cons c cs =>
            rw [glob_cons starred, Bool.and_eq_true, beq_iff_eq] at hit
            rw [hit.1, List.flatMap_cons]
            exact (glob_append_iff fun member => starred (only p member)).mpr ⟨_, rfl, ih hit.2⟩

theorem glob_flatMap (sync : SelfSynchronizing encode leads) (ps cs : List β) :
    glob star (ps.flatMap encode) (cs.flatMap encode) = glob wild ps cs := by
  rw [Bool.eq_iff_iff]
  exact ⟨glob_of_glob_flatMap alone only sync, glob_flatMap_of_glob alone only⟩

end SelfSynchronizing

end RealtimePlatform.Library
