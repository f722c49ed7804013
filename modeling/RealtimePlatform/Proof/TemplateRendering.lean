import RealtimePlatform.Backend.MessageTemplate
import RealtimePlatform.Portal.TemplateVariables

namespace RealtimePlatform.Proof.TemplateRendering
open Library Utf16 Backend Portal

/-- A body is cut in one way at its placeholders, and each is replaced by the value of its trimmed name. -/
structure SinglePass (template : MessageTemplate) (ps : List (List Char × List Char)) (tail : List Char) :
    Prop where
  cut : Decomposes '{' '}' template.body.toList ps tail
  unique : ∀ ps' tail', Decomposes '{' '}' template.body.toList ps' tail' → ps' = ps ∧ tail' = tail
  rendered : ∀ values, template.render values =
    some (String.ofList ((ps.flatMap fun (literal, inner) => literal ++ valueOf values inner) ++ tail))
  untouched : (∀ a b c, template.body.toList ≠ a ++ twice '{' ++ b ++ twice '}' ++ c) →
    ∀ values, template.render values = some template.body
  verbatim : ∀ values name value, ∀ p ∈ ps, String.ofList (trim p.2) = name →
    valueOf (AList.insert name value values) p.2 = value.toList
  others : ∀ values name value, ∀ p ∈ ps, String.ofList (trim p.2) ≠ name →
    valueOf (AList.insert name value values) p.2 = valueOf values p.2

theorem render_singlePass (template : MessageTemplate) : ∃ ps tail, SinglePass template ps tail := by
  have cut : Decomposes '{' '}' template.body.toList _ _ := decomposes_placeholders template.body.toList
  refine ⟨_, _, cut, fun ps' tail' => cut.unique, render_eq template, ?_, ?_, ?_⟩
  · intro open_ values
    obtain ⟨none, whole⟩ := (Decomposes.tail open_).unique cut
    rw [render_eq, filledIn, none, whole, List.flatMap_nil, List.nil_append, String.ofList_toList]
  · rintro values name value p _ rfl
    rw [valueOf, AList.lookup_insert]
  · intro values name value p _ other
    rw [valueOf, AList.lookup_insert_ne other, valueOf]

/-- What a placeholder must hold for both sides to read it alike: a word that is no property of every object,
with nothing around it but what both take for space. -/
def Plain (inner : List Char) : Prop :=
  trim inner ≠ [] ∧ (∀ c ∈ trim inner, isWord c.toNat = true) ∧
    (∀ c ∈ inner, isWord c.toNat = true ∨ isSpace c.toNat = true) ∧
    inherited ((trim inner).flatMap encodeChar) = none

theorem isWhiteSpace_eq_false {c : Char} (word : isWord c.toNat = true) : isWhiteSpace c = false := by
  simp only [isWord, Bool.or_eq_true, Bool.and_eq_true, decide_eq_true_eq, beq_iff_eq] at word
  simp only [isWhiteSpace, Bool.or_eq_false_iff, Bool.and_eq_false_iff, decide_eq_false_iff_not]
  omega

theorem dropWhile_append {p : Char → Bool} {u v : List Char} (stops : ∀ x ∈ v.head?, p x = false) :
    (u ++ v).dropWhile p = u.dropWhile p ++ v := by
  have whole : v.dropWhile p = v := by
    cases v with
    | nil => rfl
    | cons x v => rw [List.dropWhile_cons_of_neg (by simp [stops x rfl])]
  rw [List.dropWhile_append, whole]
  split
  · rename_i empty
    rw [List.isEmpty_iff.mp empty, List.nil_append]
  · rfl

theorem trim_append {before name after : List Char} (nonempty : name ≠ [])
    (word : ∀ c ∈ name, isWord c.toNat = true) :
    trim (before ++ name ++ after) = before.dropWhile isWhiteSpace ++ name ++ after.rdropWhile isWhiteSpace := by
  have first : ∀ x ∈ (name ++ after).head?, isWhiteSpace x = false := by
    intro x found
    rw [List.head?_append_of_ne_nil _ nonempty] at found
    exact isWhiteSpace_eq_false (word x (List.mem_of_head? found))
  have last : ∀ x ∈ (name.reverse ++ (before.dropWhile isWhiteSpace).reverse).head?, isWhiteSpace x = false := by
    intro x found
    rw [List.head?_append_of_ne_nil _ (by simpa using nonempty)] at found
    exact isWhiteSpace_eq_false (word x (List.mem_reverse.mp (List.mem_of_head? found)))
  rw [trim, List.append_assoc, dropWhile_append first, List.rdropWhile, List.reverse_append, List.reverse_append,
    List.append_assoc, dropWhile_append last]
  simp [List.rdropWhile]

theorem trim_split (inner : List Char) : ∃ before after, inner = before ++ trim inner ++ after ∧
    ∀ c, c ∈ before ∨ c ∈ after → isWhiteSpace c = true := by
  refine ⟨inner.takeWhile isWhiteSpace, (inner.dropWhile isWhiteSpace).rtakeWhile isWhiteSpace, ?_, ?_⟩
  · rw [trim, List.append_assoc, List.rdropWhile_append_rtakeWhile, List.takeWhile_append_dropWhile]
  · rintro c (front | back)
    · exact List.mem_takeWhile_imp front
    · exact List.mem_rtakeWhile_imp back

def HasWord (name inner : List Char) : Prop :=
  scalarBraces.Begins name [] (twice '{' ++ inner ++ twice '}')

theorem hasWord_iff {name inner : List Char} : HasWord name inner ↔
    (∃ before after, inner = before ++ name ++ after ∧ (∀ c ∈ before, isSpace c.toNat = true) ∧
      ∀ c ∈ after, isSpace c.toNat = true) ∧ (∀ c ∈ name, isWord c.toNat = true) ∧ name ≠ [] := by
  constructor
  · rintro ⟨⟨before, after, shape, spaces⟩, word, nonempty⟩
    rw [List.append_nil] at shape
    exact ⟨⟨before, after, List.append_cancel_left (List.append_cancel_right shape), spaces⟩, word, nonempty⟩
  · rintro ⟨⟨before, after, rfl, spaces⟩, word, nonempty⟩
    exact ⟨⟨before, after, (List.append_nil _).symm, spaces⟩, word, nonempty⟩

theorem HasWord.eq_trim {name inner : List Char} (has : HasWord name inner)
    (word : ∀ c ∈ trim inner, isWord c.toNat = true) : trim inner = name := by
  obtain ⟨⟨before, after, rfl, spaceBefore, spaceAfter⟩, own, nonempty⟩ := hasWord_iff.mp has
  rw [trim_append nonempty own] at word ⊢
  have gone : ∀ c : Char, isSpace c.toNat = true → isWord c.toNat = true → False := by
    intro c space both
    rw [isWord_of_isSpace space] at both
    cases both
  have front : before.dropWhile isWhiteSpace = [] := List.eq_nil_iff_forall_not_mem.mpr fun c member =>
    gone c (spaceBefore c ((List.dropWhile_suffix _).mem member)) (word c (by simp [member]))
  have back : after.rdropWhile isWhiteSpace = [] := List.eq_nil_iff_forall_not_mem.mpr fun c member =>
    gone c (spaceAfter c ((List.rdropWhile_prefix _ _).mem member)) (word c (by simp [member]))
  rw [front, back, List.nil_append, List.append_nil]

theorem Plain.hasWord {inner : List Char} (plain : Plain inner) : HasWord (trim inner) inner := by
  obtain ⟨nonempty, word, only, _⟩ := plain
  obtain ⟨before, after, split, trimmed⟩ := trim_split inner
  have space : ∀ c, c ∈ before ∨ c ∈ after → isSpace c.toNat = true := by
    intro c around
    have member : c ∈ inner := by
      rw [split]
      rcases around with front | back
      · simp [front]
      · simp [back]
    rcases only c member with letter | space
    · have blank := trimmed c around
      rw [isWhiteSpace_eq_false letter] at blank
      cases blank
    · exact space
  exact hasWord_iff.mpr ⟨⟨before, after, split, fun c front => space c (Or.inl front),
    fun c back => space c (Or.inr back)⟩, word, nonempty⟩

/-- A text that the server and the portal fill alike, whatever the values. -/
def Agrees (body : String) : Prop :=
  ∀ values, ∃ text, (MessageTemplate.mk body).render values = some text ∧
    fillTemplateVariables (ofString body) (record values) = ofString text

def portalText (values : Table String String) (inner : List Char) : List Char :=
  scalarBraces.replaceAll (propertyText values) (twice '{' ++ inner ++ twice '}')

section
variable {body : String} {inner : List Char} {ps : List (List Char × List Char)}

theorem agrees_iff_flatMap : Agrees body ↔ ∀ values,
    ((placeholders '{' '}' body.toList).1.flatMap fun p => p.1 ++ portalText values p.2) =
      (placeholders '{' '}' body.toList).1.flatMap fun p => p.1 ++ valueOf values p.2 := by
  refine forall_congr' fun values => ?_
  have cut : Decomposes '{' '}' body.toList _ _ := decomposes_placeholders body.toList
  have portal := Braces.replaceAll_decomposes (β := scalarBraces) (f := propertyText values) cut
  rw [fillTemplateVariables_record, render_eq, portal, filledIn]
  constructor
  · rintro ⟨text, rendered, same⟩
    have texts := ofString_injective (same.trans (congrArg ofString (Option.some.inj rendered).symm))
    exact List.append_cancel_right (String.ofList_injective texts)
  · intro same
    refine ⟨_, rfl, congrArg (fun t => ofString (String.ofList (t ++ _))) same⟩

theorem length_eq_of_flatMap_eq {f g : List Char → List Char}
    (le : ∀ p ∈ ps, (g p.2).length ≤ (f p.2).length)
    (same : (ps.flatMap fun p => p.1 ++ f p.2) = ps.flatMap fun p => p.1 ++ g p.2) :
    ∀ p ∈ ps, (f p.2).length = (g p.2).length := by
  have total := congrArg List.length same
  clear same
  induction ps with
  | nil => simp
  | cons p ps ih =>
      have here := le p List.mem_cons_self
      have later : ∀ q ∈ ps, (g q.2).length ≤ (f q.2).length := fun q member => le q (List.mem_cons_of_mem p member)
      have rest : (ps.flatMap fun p => p.1 ++ g p.2).length ≤ (ps.flatMap fun p => p.1 ++ f p.2).length := by
        clear ih total le here
        induction ps with
        | nil => exact Nat.le_refl _
        | cons q ps ih =>
            have here := later q List.mem_cons_self
            have tail := ih fun r member => later r (List.mem_cons_of_mem q member)
            simp only [List.flatMap_cons, List.length_append] at tail ⊢
            omega
      simp only [List.flatMap_cons, List.length_append] at total
      intro q member
      rcases List.mem_cons.mp member with rfl | inside
      · omega
      · exact ih later (by omega) q inside

theorem portalText_of_hasWord {name : List Char} (has : HasWord name inner) (values : Table String String) :
    portalText values inner = propertyText values name := by
  rw [portalText, Braces.replaceAll_of_begins has, Braces.replaceAll_nil, List.append_nil]

theorem portalText_of_plain (plain : Plain inner) (values : Table String String) :
    portalText values inner = valueOf values inner := by
  rw [portalText_of_hasWord plain.hasWord, propertyText, valueOf, plain.2.2.2]
  cases AList.lookup (String.ofList (trim inner)) values <;> rfl

theorem hasWord_of_portalText_eq_nil {p : List Char × List Char} {s tail : List Char}
    (cut : Decomposes '{' '}' s ps tail) (member : p ∈ ps) (empty : portalText ∅ p.2 = []) :
    ∃ name, HasWord name p.2 ∧ inherited (name.flatMap encodeChar) = none := by
  have alone := Braces.sealed_of_decomposes (β := scalarBraces) cut p member
  rcases Braces.replaceAll_sealed alone with ⟨before, inner, name, split, begins, all⟩ | all
  · have written : before ++ propertyText ∅ name = [] := (all _).symm.trans empty
    obtain ⟨rfl, nothing⟩ := List.append_eq_nil_iff.mp written
    rw [List.nil_append] at split
    refine ⟨name, ?_, ?_⟩
    · rw [HasWord]
      exact split ▸ begins
    · cases found : inherited (name.flatMap encodeChar) with
      | none => rfl
      | some text =>
          obtain ⟨own, rfl, nonempty⟩ := inherited_eq_some found
          have value : propertyText ∅ name = own.toList := by
            rw [propertyText, AList.lookup_empty, found]
            simp
          rw [value] at nothing
          exact absurd (String.toList_inj.mp nothing) nonempty
  · have written : twice '{' ++ p.2 ++ twice '}' = [] := (all _).symm.trans empty
    simp [twice] at written

/-- The server and the portal fill a body alike, whatever the values, exactly when all its placeholders are
plain. -/
theorem agrees_iff (body : String) : Agrees body ↔ ∀ p ∈ (placeholders '{' '}' body.toList).1, Plain p.2 := by
  have cut : Decomposes '{' '}' body.toList _ _ := decomposes_placeholders body.toList
  rw [agrees_iff_flatMap]
  generalize (placeholders '{' '}' body.toList).1 = ps at cut ⊢
  constructor
  · intro agree p member
    have words : ∀ q ∈ ps, ∃ name, HasWord name q.2 ∧ inherited (name.flatMap encodeChar) = none := by
      intro q inside
      have none : ∀ inner, valueOf ∅ inner = [] := fun inner => by rw [valueOf, AList.lookup_empty]
      have lengths := length_eq_of_flatMap_eq (fun r _ => by rw [none]; exact Nat.zero_le _) (agree ∅) q inside
      rw [none, List.length_nil] at lengths
      exact hasWord_of_portalText_eq_nil cut inside (List.length_eq_zero_iff.mp lengths)
    obtain ⟨name, has, fresh⟩ := words p member
    -- With a value for this one word the server writes it only where the trimmed name is the word.
    let values : Table String String := AList.insert (String.ofList name) "x" ∅
    have served : ∀ inner, valueOf values inner = if trim inner = name then ['x'] else [] := by
      intro inner
      rw [valueOf]
      by_cases same : trim inner = name
      · rw [same, AList.lookup_insert, if_pos rfl]
        rfl
      · rw [AList.lookup_insert_ne fun equal => same (String.ofList_injective equal), AList.lookup_empty, if_neg same]
    have shown : propertyText values name = ['x'] := by
      rw [propertyText, AList.lookup_insert]
      rfl
    obtain ⟨⟨before, after, split, spaceBefore, spaceAfter⟩, word, nonempty⟩ := hasWord_iff.mp has
    have le : ∀ q ∈ ps, (valueOf values q.2).length ≤ (portalText values q.2).length := by
      intro q inside
      rw [served]
      split
      · rename_i same
        obtain ⟨other, hasOther, _⟩ := words q inside
        obtain rfl : name = other := same.symm.trans (hasOther.eq_trim (same ▸ word))
        rw [portalText_of_hasWord hasOther, shown]
      · exact Nat.zero_le _
    have lengths := length_eq_of_flatMap_eq le (agree values) p member
    rw [portalText_of_hasWord has, shown, served] at lengths
    have trimmed : trim p.2 = name := by
      by_contra other
      rw [if_neg other] at lengths
      cases lengths
    refine ⟨trimmed ▸ nonempty, trimmed ▸ word, fun c inside => ?_, trimmed ▸ fresh⟩
    rw [split, List.mem_append, List.mem_append] at inside
    rcases inside with (front | own) | back
    · exact Or.inr (spaceBefore c front)
    · exact Or.inl (word c own)
    · exact Or.inr (spaceAfter c back)
  · intro plain values
    refine List.flatMap_congr fun p member => ?_
    rw [portalText_of_plain (plain p member)]

theorem not_agrees_hyphen : ¬ ∀ body, Agrees body := by
  intro always
  have plain := (agrees_iff _).mp (always "\x7b\x7buser-name\x7d\x7d")
  have begins : breakAt (twice '{') "\x7b\x7buser-name\x7d\x7d".toList = some ([], "user-name\x7d\x7d".toList) := by
    decide
  have ends : breakAt (twice '}') "user-name\x7d\x7d".toList = some ("user-name".toList, []) := by decide
  rw [placeholders_of_first (firstAt_of_breakAt begins) (firstAt_of_breakAt ends)] at plain
  have word := (plain _ List.mem_cons_self).2.1 '-' (by decide)
  exact absurd word (by decide)

end
end RealtimePlatform.Proof.TemplateRendering
