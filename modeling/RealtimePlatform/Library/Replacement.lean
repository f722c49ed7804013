import RealtimePlatform.Library.Placeholders

/-!
# Replacing words in placeholders

A replacement takes the placeholders in which a word stands with space around it, and looks for one at every
position. It goes placeholder by placeholder all the same, and is the same on symbols and on their encodings.
-/

namespace RealtimePlatform.Library

structure Braces (α : Type*) where
  opening : α
  closing : α
  isSpace : α → Bool
  isWord : α → Bool
  distinct : opening ≠ closing
  disjoint : ∀ x, isSpace x = true → isWord x = false
  openingPlain : isSpace opening = false ∧ isWord opening = false
  closingPlain : isSpace closing = false ∧ isWord closing = false

namespace Braces
variable {α : Type*} [DecidableEq α] (β : Braces α)

def matchAt : List α → Option (List α × List α)
  | x :: y :: s =>
    let inner := s.dropWhile β.isSpace
    let rest := (inner.dropWhile β.isWord).dropWhile β.isSpace
    if x = β.opening ∧ y = β.opening ∧ inner.takeWhile β.isWord ≠ [] ∧ twice β.closing <+: rest then
      some (inner.takeWhile β.isWord, rest.drop 2)
    else none
  | _ => none

structure Begins (name rest s : List α) : Prop where
  shape : ∃ before after, s = twice β.opening ++ (before ++ name ++ after) ++ twice β.closing ++ rest ∧
    (∀ x ∈ before, β.isSpace x = true) ∧ ∀ x ∈ after, β.isSpace x = true
  word : ∀ x ∈ name, β.isWord x = true
  nonempty : name ≠ []

variable {β}

omit [DecidableEq α] in
theorem span_append {p : α → Bool} {u v : List α} (all : ∀ x ∈ u, p x = true)
    (stops : ∀ x ∈ v.head?, p x = false) : (u ++ v).takeWhile p = u ∧ (u ++ v).dropWhile p = v := by
  have none : v.takeWhile p = [] ∧ v.dropWhile p = v := by
    cases v with
    | nil => exact ⟨rfl, rfl⟩
    | cons x v =>
        have fails := stops x rfl
        simp [fails]
  rw [List.takeWhile_append_of_pos all, List.dropWhile_append_of_pos all, none.1, none.2, List.append_nil]
  exact ⟨rfl, rfl⟩

theorem matchAt_eq_some_iff {s name rest : List α} :
    β.matchAt s = some (name, rest) ↔ β.Begins name rest s := by
  constructor
  · intro found
    unfold matchAt at found
    split at found
    · rename_i x y s
      dsimp only at found
      split at found
      · rename_i both
        obtain ⟨rfl, rfl, word, ⟨tail, closed⟩⟩ := both
        cases found
        refine ⟨⟨s.takeWhile β.isSpace,
          ((s.dropWhile β.isSpace).dropWhile β.isWord).takeWhile β.isSpace, ?_, ?_, ?_⟩, ?_, word⟩
        · have last : tail = (((s.dropWhile β.isSpace).dropWhile β.isWord).dropWhile β.isSpace).drop 2 := by
            rw [← closed]
            rfl
          rw [← last, List.append_assoc _ (twice β.closing), closed]
          simp [twice, List.takeWhile_append_dropWhile]
        · exact fun x => List.mem_takeWhile_imp
        · exact fun x => List.mem_takeWhile_imp
        · exact fun x => List.mem_takeWhile_imp
      · cases found
    · cases found
  · rintro ⟨⟨before, after, rfl, spaceBefore, spaceAfter⟩, word, nonempty⟩
    have stopsClosing : ∀ x ∈ (twice β.closing ++ rest).head?, β.isSpace x = false ∧ β.isWord x = false := by
      intro x first
      obtain rfl : β.closing = x := by simpa [twice] using first
      exact β.closingPlain
    have stopsAfter : ∀ x ∈ (after ++ (twice β.closing ++ rest)).head?, β.isWord x = false := by
      intro x first
      cases after with
      | nil => exact (stopsClosing x first).2
      | cons y after =>
          obtain rfl : y = x := by simpa using first
          exact β.disjoint y (spaceAfter y List.mem_cons_self)
    have stopsBefore : ∀ x ∈ (name ++ (after ++ (twice β.closing ++ rest))).head?, β.isSpace x = false := by
      intro x first
      cases name with
      | nil => exact absurd rfl nonempty
      | cons y name =>
          obtain rfl : y = x := by simpa using first
          cases space : β.isSpace y with
          | false => rfl
          | true =>
              have other := β.disjoint y space
              rw [word y List.mem_cons_self] at other
              cases other
    have spans₁ := span_append spaceBefore stopsBefore
    have spans₂ := span_append word stopsAfter
    have spans₃ := span_append spaceAfter fun x first => (stopsClosing x first).1
    have shape : twice β.opening ++ (before ++ name ++ after) ++ twice β.closing ++ rest =
        β.opening :: β.opening :: (before ++ (name ++ (after ++ (twice β.closing ++ rest)))) := by
      simp [twice]
    rw [shape, matchAt]
    simp only [spans₁.2, spans₂.1, spans₂.2, spans₃.2]
    rw [if_pos ⟨trivial, trivial, nonempty, List.prefix_append _ _⟩]
    rfl

theorem matchAt_of_first {x : α} (other : x ≠ β.opening) (s : List α) : β.matchAt (x :: s) = none := by
  cases s with
  | nil => rfl
  | cons y s => exact if_neg fun both => other both.1

theorem matchAt_of_second {y : α} (other : y ≠ β.opening) (x : α) (s : List α) :
    β.matchAt (x :: y :: s) = none :=
  if_neg fun both => other both.2.1

theorem length_matchAt {s name rest : List α} (found : β.matchAt s = some (name, rest)) :
    rest.length < s.length := by
  obtain ⟨⟨before, after, rfl, _⟩, _⟩ := matchAt_eq_some_iff.mp found
  simp [twice]
  omega

variable (β)

def replaceAll (f : List α → List α) : List α → List α
  | [] => []
  | x :: xs =>
    match _found : β.matchAt (x :: xs) with
    | some (name, rest) => f name ++ replaceAll f rest
    | none => x :: replaceAll f xs
termination_by s => s.length
decreasing_by
  · exact length_matchAt _found
  · simp

variable {β} {f : List α → List α}

theorem replaceAll_of_begins {s name rest : List α} (begins : β.Begins name rest s) :
    β.replaceAll f s = f name ++ β.replaceAll f rest := by
  cases s with
  | nil =>
      obtain ⟨before, after, same, _⟩ := begins.shape
      cases same
  | cons x xs =>
      rw [replaceAll]
      split
      · rename_i found
        rw [matchAt_eq_some_iff.mpr begins] at found
        cases found
        rfl
      · rename_i found
        rw [matchAt_eq_some_iff.mpr begins] at found
        cases found

theorem replaceAll_nil : β.replaceAll f [] = [] := by rw [replaceAll]

theorem replaceAll_cons {x : α} {s : List α} (none : ∀ name rest, ¬ β.Begins name rest (x :: s)) :
    β.replaceAll f (x :: s) = x :: β.replaceAll f s := by
  rw [replaceAll]
  split
  · rename_i found
    exact absurd (matchAt_eq_some_iff.mp found) (none _ _)
  · rfl

omit [DecidableEq α] in
theorem Begins.opens {s name rest : List α} (begins : β.Begins name rest s) : twice β.opening <+: s := by
  obtain ⟨before, after, rfl, _⟩ := begins.shape
  rw [List.append_assoc, List.append_assoc]
  exact List.prefix_append _ _

omit [DecidableEq α] in
theorem Begins.firstAt {s name rest : List α} (begins : β.Begins name rest s) :
    ∃ u, FirstAt (twice β.closing) u rest s ∧ s = u ++ twice β.closing ++ rest := by
  obtain ⟨before, after, rfl, spaceBefore, spaceAfter⟩ := begins.shape
  refine ⟨_, firstAt_of_notMem ?_ rest, rfl⟩
  have plain : ∀ {x}, β.isSpace x = true ∨ β.isWord x = true → x ≠ β.closing := by
    rintro x (space | word) rfl
    · rw [β.closingPlain.1] at space
      cases space
    · rw [β.closingPlain.2] at word
      cases word
  simp only [twice, List.mem_append, List.mem_cons, List.not_mem_nil, or_false, not_or]
  exact ⟨⟨β.distinct.symm, β.distinct.symm⟩, ⟨fun member => plain (Or.inl (spaceBefore _ member)) rfl,
    fun member => plain (Or.inr (begins.word _ member)) rfl⟩, fun member => plain (Or.inl (spaceAfter _ member)) rfl⟩

omit [DecidableEq α] in
theorem Begins.append {s name rest : List α} (begins : β.Begins name rest s) (t : List α) :
    β.Begins name (rest ++ t) (s ++ t) := by
  obtain ⟨before, after, rfl, spaces⟩ := begins.shape
  exact ⟨⟨before, after, by simp, spaces⟩, begins.word, begins.nonempty⟩

omit [DecidableEq α] in
theorem FirstAt.not_prefix {word : List α} {x : α} {before after s : List α}
    (first : FirstAt word (x :: before) after s) : ¬ word <+: s := by
  rintro ⟨t, same⟩
  have le := first.2 [] t same.symm
  simp at le

theorem replaceAll_literal {literal after s : List α} (begins : FirstAt (twice β.opening) literal after s) :
    β.replaceAll f s = literal ++ β.replaceAll f (twice β.opening ++ after) := by
  induction literal generalizing s with
  | nil => rw [begins.1, List.nil_append, List.nil_append]
  | cons x literal ih =>
      have later := FirstAt.not_prefix begins
      obtain ⟨rfl, shortest⟩ := begins
      simp only [List.cons_append] at later shortest ⊢
      rw [replaceAll_cons fun name rest found => later found.opens,
        ih ((firstAt_cons_iff later).mp ⟨rfl, shortest⟩)]

theorem replaceAll_open {s : List α}
    (open_ : ∀ a b c, s ≠ a ++ twice β.opening ++ b ++ twice β.closing ++ c) : β.replaceAll f s = s := by
  induction s with
  | nil => exact replaceAll_nil
  | cons x s ih =>
      rw [replaceAll_cons, ih]
      · intro a b c same
        exact open_ (x :: a) b c (by rw [same]; simp)
      · intro name rest found
        obtain ⟨before, after, same, _⟩ := found.shape
        exact open_ [] (before ++ name ++ after) rest (by rw [same]; simp)

theorem replaceAll_closing (rest : List α) :
    β.replaceAll f (twice β.closing ++ rest) = twice β.closing ++ β.replaceAll f rest := by
  have plain : ∀ t name rest, ¬ β.Begins name rest (β.closing :: t) := by
    intro t name rest found
    obtain ⟨u, same⟩ := found.opens
    exact β.distinct (List.cons.inj same).1
  rw [twice, List.cons_append, List.cons_append, List.nil_append, replaceAll_cons (plain _),
    replaceAll_cons (plain _)]
  rfl

theorem replaceAll_closed {u rest s : List α} (first : FirstAt (twice β.closing) u rest s) :
    β.replaceAll f s = β.replaceAll f (u ++ twice β.closing) ++ β.replaceAll f rest := by
  induction u generalizing s with
  | nil =>
      have alone := replaceAll_closing (β := β) (f := f) []
      rw [List.append_nil, replaceAll_nil, List.append_nil] at alone
      rw [first.1, List.nil_append, replaceAll_closing, alone]
  | cons x u ih =>
      have later := FirstAt.not_prefix first
      obtain ⟨rfl, shortest⟩ := first
      by_cases matched : ∃ name tail, β.Begins name tail (x :: u ++ twice β.closing)
      · obtain ⟨name, tail, begins⟩ := matched
        obtain ⟨v, own, _⟩ := begins.firstAt
        obtain ⟨v', whole, _⟩ := (begins.append rest).firstAt
        obtain ⟨_, same⟩ := whole.unique ⟨rfl, shortest⟩
        obtain rfl : tail = [] := List.append_left_eq_self.mp same
        rw [replaceAll_of_begins (begins.append rest), replaceAll_of_begins begins, replaceAll_nil,
          List.append_nil, List.nil_append]
      · have apart : ∀ name tail, ¬ β.Begins name tail (x :: u ++ twice β.closing) :=
          fun name tail begins => matched ⟨name, tail, begins⟩
        have apart' : ∀ name tail, ¬ β.Begins name tail (x :: (u ++ twice β.closing ++ rest)) := by
          intro name tail begins
          obtain ⟨v, whole, split⟩ := begins.firstAt
          obtain ⟨rfl, rfl⟩ := whole.unique (⟨rfl, shortest⟩ : FirstAt _ (x :: u) rest _)
          obtain ⟨before, after, shape, spaces⟩ := begins.shape
          refine apart name [] ⟨⟨before, after, ?_, spaces⟩, begins.word, begins.nonempty⟩
          have same := split.symm.trans shape
          rw [List.append_left_inj] at same
          rw [List.append_nil, same]
        simp only [List.cons_append] at later apart shortest ⊢
        rw [replaceAll_cons apart', replaceAll_cons apart, ih ((firstAt_cons_iff later).mp ⟨rfl, shortest⟩)]
        rfl

omit [DecidableEq α] in
theorem firstAt_opened {inner rest after : List α} (ends : FirstAt (twice β.closing) inner rest after) :
    FirstAt (twice β.closing) (twice β.opening ++ inner) rest (twice β.opening ++ after) := by
  have apart : ∀ t, ¬ twice β.closing <+: β.opening :: t := by
    rintro t ⟨v, same⟩
    exact β.distinct (List.cons.inj same).1.symm
  exact (firstAt_cons_iff (apart _)).mpr ((firstAt_cons_iff (apart _)).mpr ends)

theorem replaceAll_decomposes {s tail : List α} {ps : List (List α × List α)}
    (decomposes : Decomposes β.opening β.closing s ps tail) : β.replaceAll f s =
      (ps.flatMap fun (literal, inner) =>
        literal ++ β.replaceAll f (twice β.opening ++ inner ++ twice β.closing)) ++ tail := by
  induction decomposes with
  | tail open_ => exact replaceAll_open open_
  | cons begins ends later ih =>
      rw [replaceAll_literal begins, replaceAll_closed (firstAt_opened ends), ih, List.flatMap_cons]
      simp

omit [DecidableEq α] in
theorem firstAt_alone {u rest s : List α} (first : FirstAt (twice β.closing) u rest s) :
    FirstAt (twice β.closing) u [] (u ++ twice β.closing) := by
  refine ⟨(List.append_nil _).symm, fun b a split => first.2 b (a ++ rest) ?_⟩
  rw [first.1, split, List.append_assoc _ a]

omit [DecidableEq α] in
theorem sealed_of_decomposes {s tail : List α} {ps : List (List α × List α)}
    (decomposes : Decomposes β.opening β.closing s ps tail) : ∀ p ∈ ps, FirstAt (twice β.closing)
      (twice β.opening ++ p.2) [] (twice β.opening ++ p.2 ++ twice β.closing) := by
  induction decomposes with
  | tail _ => simp
  | cons _ ends _ ih =>
      intro p member
      rcases List.mem_cons.mp member with rfl | later
      · exact firstAt_alone (firstAt_opened ends)
      · exact ih p later

theorem replaceAll_sealed {u : List α} (first : FirstAt (twice β.closing) u [] (u ++ twice β.closing)) :
    (∃ before inner name, u = before ++ inner ∧ β.Begins name [] (inner ++ twice β.closing) ∧
      ∀ f, β.replaceAll f (u ++ twice β.closing) = before ++ f name) ∨
    ∀ f, β.replaceAll f (u ++ twice β.closing) = u ++ twice β.closing := by
  induction u with
  | nil =>
      refine Or.inr fun f => ?_
      have alone := replaceAll_closing (β := β) (f := f) []
      rwa [List.append_nil, replaceAll_nil, List.append_nil] at alone
  | cons x u ih =>
      have later := FirstAt.not_prefix first
      by_cases matched : ∃ name tail, β.Begins name tail (x :: u ++ twice β.closing)
      · obtain ⟨name, tail, begins⟩ := matched
        obtain ⟨v, own, _⟩ := begins.firstAt
        obtain ⟨_, rfl⟩ := own.unique first
        refine Or.inl ⟨[], x :: u, name, rfl, begins, fun f => ?_⟩
        rw [replaceAll_of_begins begins, replaceAll_nil, List.append_nil, List.nil_append]
      · have step : ∀ f, β.replaceAll f (x :: u ++ twice β.closing) =
            x :: β.replaceAll f (u ++ twice β.closing) := fun f =>
          replaceAll_cons fun name tail begins => matched ⟨name, tail, begins⟩
        have inner := (firstAt_cons_iff later).mp first
        rcases ih inner with ⟨before, rest, name, split, begins, all⟩ | all
        · exact Or.inl ⟨x :: before, rest, name, by rw [split]; rfl, begins, fun f => by
            rw [step, all, List.cons_append]⟩
        · exact Or.inr fun f => by rw [step, all, List.cons_append]

end Braces

structure EncodedBraces {α γ : Type*} (encode : γ → List α) (own : Braces γ) (encoded : Braces α) : Prop where
  symbol : ∀ c, ∃ u us, encode c = u :: us ∧ (u = encoded.opening ↔ c = own.opening) ∧
    (u = encoded.closing ↔ c = own.closing) ∧ encoded.isSpace u = own.isSpace c ∧
    encoded.isWord u = own.isWord c ∧ (∀ v ∈ us, v ≠ encoded.opening) ∧
    (c = own.opening ∨ c = own.closing ∨ own.isSpace c = true ∨ own.isWord c = true → us = [])

namespace EncodedBraces
variable {α γ : Type*} {encode : γ → List α}

theorem span_flatMap (encode : γ → List α) (p : γ → Bool) (p' : α → Bool)
    (agree : ∀ c, ∃ u us, encode c = u :: us ∧ p' u = p c ∧ (p c = true → us = [])) (cs : List γ) :
    (cs.flatMap encode).takeWhile p' = (cs.takeWhile p).flatMap encode ∧
      (cs.flatMap encode).dropWhile p' = (cs.dropWhile p).flatMap encode := by
  induction cs with
  | nil => exact ⟨rfl, rfl⟩
  | cons c cs ih =>
      obtain ⟨u, us, shape, same, alone⟩ := agree c
      rw [List.flatMap_cons, shape, List.cons_append]
      cases holds : p c with
      | true =>
          rw [alone holds, List.nil_append, List.takeWhile_cons_of_pos (same.trans holds),
            List.dropWhile_cons_of_pos (same.trans holds), List.takeWhile_cons_of_pos holds,
            List.dropWhile_cons_of_pos holds, List.flatMap_cons, shape, alone holds, ih.1, ih.2]
          exact ⟨rfl, rfl⟩
      | false =>
          have fails : ¬ p' u = true := by simp [same, holds]
          rw [List.takeWhile_cons_of_neg fails, List.dropWhile_cons_of_neg fails,
            List.takeWhile_cons_of_neg (by simp [holds]), List.dropWhile_cons_of_neg (by simp [holds]),
            List.flatMap_cons, shape]
          exact ⟨rfl, rfl⟩

variable [DecidableEq α] [DecidableEq γ] {own : Braces γ} {encoded : Braces α}
  (braces : EncodedBraces encode own encoded)
include braces

omit [DecidableEq α] [DecidableEq γ] in
theorem encode_closing : encode own.closing = [encoded.closing] := by
  obtain ⟨u, us, shape, _, closes, _, _, _, alone⟩ := braces.symbol own.closing
  rw [shape, closes.mpr rfl, alone (Or.inr (Or.inl rfl))]

omit [DecidableEq α] [DecidableEq γ] in
theorem closing_prefix_flatMap {v : List α} (cs : List γ) : encoded.closing :: v <+: cs.flatMap encode ↔
    ∃ rest, cs = own.closing :: rest ∧ v <+: rest.flatMap encode := by
  cases cs with
  | nil => simp
  | cons c cs =>
      by_cases here : c = own.closing
      · subst here
        rw [List.flatMap_cons, encode_closing braces, List.singleton_append, List.cons_prefix_cons]
        simp
      · obtain ⟨u, us, shape, _, closes, _⟩ := braces.symbol c
        have other : encoded.closing ≠ u := fun same => here (closes.mp same.symm)
        rw [List.flatMap_cons, shape, List.cons_append, List.cons_prefix_cons]
        simp [other, here]

omit [DecidableEq α] [DecidableEq γ] in
theorem closed_flatMap (cs : List γ) : (twice encoded.closing <+: cs.flatMap encode ↔ twice own.closing <+: cs) ∧
    (twice own.closing <+: cs → (cs.flatMap encode).drop 2 = (cs.drop 2).flatMap encode) := by
  constructor
  · constructor
    · intro closed
      obtain ⟨rest, rfl, second⟩ := (closing_prefix_flatMap braces cs).mp closed
      obtain ⟨rest, rfl, _⟩ := (closing_prefix_flatMap braces rest).mp second
      exact List.prefix_append _ _
    · rintro ⟨rest, rfl⟩
      exact (closing_prefix_flatMap braces _).mpr
        ⟨_, rfl, (closing_prefix_flatMap braces _).mpr ⟨_, rfl, List.nil_prefix⟩⟩
  · rintro ⟨rest, rfl⟩
    simp [twice, encode_closing braces]

theorem matchAt_flatMap (cs : List γ) : encoded.matchAt (cs.flatMap encode) =
    (own.matchAt cs).map fun parts => (parts.1.flatMap encode, parts.2.flatMap encode) := by
  have alone : encode own.opening = [encoded.opening] := by
    obtain ⟨u, us, shape, opens, _, _, _, _, alone⟩ := braces.symbol own.opening
    rw [shape, opens.mpr rfl, alone (Or.inl rfl)]
  have other : ∀ {c}, c ≠ own.opening → ∃ u us, encode c = u :: us ∧ u ≠ encoded.opening := by
    intro c apart
    obtain ⟨u, us, shape, opens, _⟩ := braces.symbol c
    exact ⟨u, us, shape, fun same => apart (opens.mp same)⟩
  cases cs with
  | nil => rfl
  | cons c cs =>
      by_cases first : c = own.opening
      · subst first
        cases cs with
        | nil => simp [alone, Braces.matchAt]
        | cons d cs =>
            by_cases second : d = own.opening
            · subst second
              have space := span_flatMap encode own.isSpace encoded.isSpace fun c => by
                obtain ⟨u, us, shape, _, _, same, _, _, alone⟩ := braces.symbol c
                exact ⟨u, us, shape, same, fun holds => alone (by simp [holds])⟩
              have word := span_flatMap encode own.isWord encoded.isWord fun c => by
                obtain ⟨u, us, shape, _, _, _, same, _, alone⟩ := braces.symbol c
                exact ⟨u, us, shape, same, fun holds => alone (by simp [holds])⟩
              have empty : ∀ ds : List γ, ds.flatMap encode = [] ↔ ds = [] := by
                intro ds
                cases ds with
                | nil => simp
                | cons e ds =>
                    obtain ⟨w, ws, shape, _⟩ := braces.symbol e
                    simp [shape]
              have closed := closed_flatMap braces
                (((cs.dropWhile own.isSpace).dropWhile own.isWord).dropWhile own.isSpace)
              rw [List.flatMap_cons, List.flatMap_cons, alone, List.singleton_append, List.singleton_append,
                Braces.matchAt, Braces.matchAt]
              simp only [(space _).2, (word _).1, (word _).2, ne_eq, empty, closed.1, true_and]
              split
              · rename_i both
                rw [closed.2 both.2, Option.map_some]
              · rfl
            · obtain ⟨v, vs, shape, apart⟩ := other second
              rw [List.flatMap_cons, List.flatMap_cons, alone, shape, List.singleton_append, List.cons_append,
                Braces.matchAt_of_second second, Braces.matchAt_of_second apart, Option.map_none]
      · obtain ⟨u, us, shape, apart⟩ := other first
        rw [List.flatMap_cons, shape, List.cons_append, Braces.matchAt_of_first first,
          Braces.matchAt_of_first apart, Option.map_none]

theorem replaceAll_flatMap {f : List γ → List γ} {f' : List α → List α}
    (agree : ∀ name, (∀ c ∈ name, own.isWord c = true) → f' (name.flatMap encode) = (f name).flatMap encode)
    (cs : List γ) : encoded.replaceAll f' (cs.flatMap encode) = (own.replaceAll f cs).flatMap encode := by
  have plain : ∀ (us rest : List α), (∀ v ∈ us, v ≠ encoded.opening) →
      encoded.replaceAll f' (us ++ rest) = us ++ encoded.replaceAll f' rest := by
    intro us rest others
    induction us with
    | nil => rfl
    | cons v us ih =>
        have first := others v List.mem_cons_self
        rw [List.cons_append, Braces.replaceAll_cons, ih fun w member => others w (List.mem_cons_of_mem v member),
          List.cons_append]
        intro name tail begins
        obtain ⟨t, same⟩ := begins.opens
        exact first (List.cons.inj same).1.symm
  induction size : cs.length using Nat.strong_induction_on generalizing cs with
  | _ n ih =>
      cases found : own.matchAt cs with
      | some parts =>
          obtain ⟨name, rest⟩ := parts
          have begins := Braces.matchAt_eq_some_iff.mp found
          have begins' : encoded.Begins (name.flatMap encode) (rest.flatMap encode) (cs.flatMap encode) := by
            rw [← Braces.matchAt_eq_some_iff, matchAt_flatMap braces, found, Option.map_some]
          have shorter := Braces.length_matchAt found
          rw [Braces.replaceAll_of_begins begins, Braces.replaceAll_of_begins begins', agree name begins.word,
            ih rest.length (by omega) rest rfl, List.flatMap_append]
      | none =>
          cases cs with
          | nil => simp [Braces.replaceAll_nil]
          | cons c cs =>
              have apart : ∀ name rest, ¬ own.Begins name rest (c :: cs) := by
                intro name rest begins
                rw [Braces.matchAt_eq_some_iff.mpr begins] at found
                cases found
              obtain ⟨u, us, shape, _, _, _, _, others, _⟩ := braces.symbol c
              have whole := matchAt_flatMap braces (c :: cs)
              rw [found, Option.map_none, List.flatMap_cons, shape, List.cons_append] at whole
              have apart' : ∀ name rest, ¬ encoded.Begins name rest (u :: (us ++ cs.flatMap encode)) := by
                intro name rest begins
                rw [Braces.matchAt_eq_some_iff.mpr begins] at whole
                cases whole
              have shorter : cs.length < n := by simp [← size]
              rw [Braces.replaceAll_cons apart, List.flatMap_cons, List.flatMap_cons, shape, List.cons_append,
                Braces.replaceAll_cons apart', plain us _ others, ih cs.length shorter cs rfl, List.cons_append]

end EncodedBraces
end RealtimePlatform.Library
