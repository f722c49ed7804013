import RealtimePlatform.Proof.JsonAcceptance

namespace RealtimePlatform.Proof.JsonRoundTrip
open Library Sdk.MinimalJson JsonTokens JsonSoundness JsonCompleteness JsonAcceptance

variable {δ : Type} (round : Bool → ℚ → δ)

theorem toInt16_padStart : ∀ n < 0x20, (padStart 4 0x30 (toString16 n)).length = 4 ∧
    (toInt16 (padStart 4 0x30 (toString16 n))).map toChar = some (UInt16.ofNat n) := by
  decide +kernel

theorem encodeUnit_chars (c : UInt16) : Json.Chars (lexicon round) (encodeUnit c) [c] := by
  unfold encodeUnit
  split_ifs with quote backslash newline back tab control
  · subst quote
    exact .escape rfl .nil
  · subst backslash
    exact .escape rfl .nil
  · subst newline
    exact .escape rfl .nil
  · subst back
    exact .escape rfl .nil
  · subst tab
    exact .escape rfl .nil
  · obtain ⟨length, named⟩ := toInt16_padStart c.toNat control
    rw [UInt16.ofNat_toNat] at named
    have read : Json.Chars (lexicon round) (0x5C :: 0x75 :: (padStart 4 0x30 (toString16 c.toNat) ++ [])) [c] :=
      .unicode length named .nil
    rwa [List.append_nil] at read
  · exact .raw (decide_eq_true ⟨quote, backslash⟩) .nil

theorem flatMap_encodeUnit_chars (s : Utf16) : Json.Chars (lexicon round) (s.flatMap encodeUnit) s := by
  induction s with
  | nil => exact .nil
  | cons c rest ih => exact (encodeUnit_chars round c).append ih

theorem intercalate_separator (first : Utf16) (rest : List Utf16) :
    List.intercalate [0x2C, 0x20] (first :: rest) = List.intercalate [0x2C] (first :: rest.map ([0x20] ++ ·)) := by
  induction rest generalizing first with
  | nil => rw [List.map_nil, List.intercalate_singleton, List.intercalate_singleton]
  | cons second rest ih =>
    rw [List.map_cons, List.intercalate_cons_cons, List.intercalate_cons_cons, ih]
    cases rest with
    | nil => simp
    | cons third rest => simp [List.intercalate_cons_cons]

section Members

variable {α : Type*} (name : α → Utf16) (text : α → Utf16) (value : α → Json δ)

def memberOf (before : Utf16) (a : α) : Json.Member δ :=
  ⟨⟨before, (name a).flatMap encodeUnit, name a, []⟩, ⟨[], text a, value a, []⟩⟩

theorem whole_memberOf (before : Utf16) (a : α) :
    (memberOf name text value before a).whole = before ++ (encodeString (name a) ++ (0x3A :: text a)) := by
  simp [memberOf, Json.Member.whole, Json.Label.whole, Json.Element.whole, Json.quoted, encodeString]

theorem joinToString_value (items : List α)
    (distinct : (items.map name).Nodup) (read : ∀ a ∈ items, Json.Value (lexicon round) (text a) (value a)) :
    Json.Value (lexicon round) (joinToString (items.map fun a => encodeString (name a) ++ (0x3A :: text a)))
      (.object (items.map fun a => (name a, value a))) := by
  have blank : (lexicon round).Spaces [] := fun u none => absurd none List.not_mem_nil
  have space : (lexicon round).Spaces [0x20] := by
    intro u only
    rw [List.mem_singleton.mp only]
    rfl
  cases items with
  | nil => exact .emptyObject blank
  | cons first rest =>
    let members := memberOf name text value [] first :: rest.map (memberOf name text value [0x20])
    have each : ∀ m ∈ members, ∃ before a, m = memberOf name text value before a ∧
        (lexicon round).Spaces before ∧ a ∈ first :: rest := by
      intro m among
      obtain rfl | later := List.mem_cons.mp among
      · exact ⟨[], first, rfl, blank, List.mem_cons_self⟩
      · obtain ⟨a, found, rfl⟩ := List.mem_map.mp later
        exact ⟨[0x20], a, rfl, space, List.mem_cons_of_mem first found⟩
    have named : members.map (·.label.name) = (first :: rest).map name := by simp [members, memberOf]
    have object : Json.Value (lexicon round)
        (0x7B :: (List.intercalate [0x2C] (members.map Json.Member.whole) ++ [0x7D])) (.object (Json.entries members)) := by
      refine .objectOf (List.cons_ne_nil _ _) ?_ ?_ ?_
      · intro m among
        obtain ⟨before, a, rfl, spaces, _⟩ := each m among
        exact ⟨spaces, flatMap_encodeUnit_chars round (name a), blank⟩
      · intro m among
        obtain ⟨before, a, rfl, _⟩ := each m among
        exact ⟨blank, blank⟩
      · intro m among
        obtain ⟨before, a, rfl, _, found⟩ := each m among
        exact read a found
    have wholes : members.map Json.Member.whole = (encodeString (name first) ++ (0x3A :: text first)) ::
        (rest.map fun a => encodeString (name a) ++ (0x3A :: text a)).map ([0x20] ++ ·) := by
      simp [members, whole_memberOf, Function.comp_def]
    rw [Json.entries_of_nodup members (named ▸ distinct), wholes, ← intercalate_separator] at object
    simpa [members, memberOf, joinToString, Function.comp_def] using object

end Members

/-- What a field's value is read back as. -/
def meant : FieldValue → Json δ
  | .string value => .string value
  | .map value => .object (value.entries.map fun entry => (entry.1, .string entry.2))

theorem encodeString_value (s : Utf16) : Json.Value (lexicon round) (encodeString s) (.string s) :=
  .string (flatMap_encodeUnit_chars round s)

theorem encodeValue_value (value : FieldValue) : Json.Value (lexicon round) (encodeValue value) (meant value) := by
  cases value with
  | string value => exact encodeString_value round value
  | map value =>
    exact joinToString_value round Sigma.fst (fun entry => encodeString entry.2) (fun entry => .string entry.2)
      value.entries value.nodupKeys fun entry _ => encodeString_value round entry.2

/-- What is written for fields with different keys is read back as these fields, in their order. -/
theorem parse_encodeObject (fields : List (Utf16 × FieldValue)) (distinct : (fields.map Prod.fst).Nodup) :
    parse round (encodeObject fields) = .ok (.object (fields.map fun field => (field.1, meant field.2))) := by
  have value : Json.Value (lexicon round) (encodeObject fields) _ :=
    joinToString_value round Prod.fst (fun field => encodeValue field.2) (fun field => meant field.2) fields distinct
      fun field _ => encodeValue_value round field.2
  have span : Reads (encodeObject fields) 0 (encodeObject fields) (0 + (encodeObject fields).length) :=
    (Reads.of_drop (List.append_nil _).symm).1
  rw [parse_eq, parseValue_value round value span (by omega) (by rintro ⟨_, ⟨⟩⟩)]
  rfl

def sampleFields : List (Utf16 × FieldValue) :=
  [([0x22, 0x5C], .string [0x00, 0xD800, 0x0A]), ([], .map (AList.insert [0x1F] [0x22] ∅))]

theorem parse_encodeObject_sample : parse double (encodeObject sampleFields) =
    .ok (.object (sampleFields.map fun field => (field.1, meant field.2))) :=
  parse_encodeObject double sampleFields (by decide)

end RealtimePlatform.Proof.JsonRoundTrip
