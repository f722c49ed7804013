import RealtimePlatform.Proof.JsonCompleteness

namespace RealtimePlatform.Proof.JsonAcceptance
open Library Sdk.MinimalJson JsonTokens JsonSoundness JsonCompleteness

variable {δ : Type} (round : Bool → ℚ → δ) {s : Utf16}

/-- Some of the text, from its beginning, is a value in the reader's own tokens. -/
def HasValue (s : Utf16) : Prop :=
  ∃ before inner rest v, s = before ++ (inner ++ rest) ∧ (lexicon round).Spaces before ∧
    Json.Value (lexicon round) inner v

/-- What `parse` is to do with a text. -/
def Exact (s : Utf16) : Prop :=
  (∀ v, parse round s = .ok v ↔ Json.Text (Json.rfc8259 round) s v) ∧
    ((¬ ∃ v, Json.Text (Json.rfc8259 round) s v) → ∃ reason, parse round s = .error (.illegalState reason))

theorem parse_eq : parse round s = (parseValue round s (s.length + 1) 0).map Prod.fst := by
  rw [← parseValue_skipWhitespace]
  rfl

theorem reads_start {before rest : Utf16} (shape : s = before ++ rest) :
    Reads s 0 before before.length ∧ s.drop before.length = rest := by
  obtain ⟨margin, later⟩ := Reads.of_drop (s := s) (i := 0) shape
  rw [Nat.zero_add] at margin later
  exact ⟨margin, later⟩

theorem parse_ends :
    match parse round s with
    | .ok _ => HasValue round s
    | .error failure => Fails (Falls round s) False failure := by
  have ends := parseValue_ends (s := s) round (s.length + 1) 0
  rw [parse_eq]
  cases run : parseValue round s (s.length + 1) 0 with
  | ok result =>
    rw [run] at ends
    obtain ⟨before, inner, blank, read, span⟩ := ends
    refine ⟨before, inner, s.drop result.2, result.1, ?_, blank, read⟩
    rw [← List.append_assoc]
    exact span.1
  | error failure =>
    rw [run] at ends
    exact Fails.mono id (by omega) failure ends

theorem parseValue_text {v : Json δ} (text : Json.Text (Json.rfc8259 round) s v) :
    ∃ j, parseValue round s (s.length + 1) 0 = .ok (v, j) ∧ (Json.rfc8259 round).Spaces (s.drop j) := by
  obtain ⟨before, inner, after, shape, blank, rest, read⟩ := text
  have lax := read.mono (rfc8259_within round)
  obtain ⟨margin, later⟩ := reads_start shape
  obtain ⟨span, left⟩ := Reads.of_drop later
  obtain ⟨c, more, first, starts⟩ := value_starts round lax
  have here := Reads.getElem?_of_drop (later.trans (congrArg (· ++ after) first))
  have stop : ∀ u ∈ s[before.length + inner.length]?, inNumber u = false := by
    rw [← List.head?_drop, left]
    intro u found
    exact inNumber_of_isWhitespace ((rfc8259_within round).space u (rest u (List.mem_of_head? found)))
  refine ⟨_, ?_, left.symm ▸ rest⟩
  rw [parseValue_margin round margin (blank.mono (rfc8259_within round)) here starts.not_space]
  exact parseValue_value round lax span (by omega) fun _ => stop

theorem parse_text {v : Json δ} (text : Json.Text (Json.rfc8259 round) s v) : parse round s = .ok v := by
  obtain ⟨j, run, _⟩ := parseValue_text round text
  rw [parse_eq, run]
  rfl

theorem parse_falls (falls : Falls round s) : parse round s = .error .numberFormat := by
  obtain ⟨before, rest, blank, chokes, shape⟩ := falls
  obtain ⟨margin, later⟩ := reads_start shape
  obtain ⟨c, more, first, starts⟩ := chokes_starts round chokes
  have here := Reads.getElem?_of_drop (later.trans first)
  rw [parse_eq, parseValue_margin round margin blank here starts.not_space,
    parseValue_chokes round chokes later (by omega)]
  rfl

theorem parse_hasValue (value : HasValue round s) :
    (∃ v, parse round s = .ok v) ∨ parse round s = .error .numberFormat := by
  obtain ⟨before, inner, rest, v, shape, blank, read⟩ := value
  obtain ⟨margin, later⟩ := reads_start shape
  obtain ⟨span, left⟩ := Reads.of_drop later
  obtain ⟨c, more, first, starts⟩ := value_starts round read
  have here := Reads.getElem?_of_drop (later.trans (congrArg (· ++ rest) first))
  rw [parse_eq, parseValue_margin round margin blank here starts.not_space]
  by_cases number : ∃ x, v = .number x
  · obtain ⟨x, rfl⟩ := number
    cases read with
    | number token =>
      obtain ⟨d, tail, shape', digit⟩ := number_starts round token
      obtain ⟨rfl, rfl⟩ := List.cons.inj (first.symm.trans shape')
      have some' : (s.drop before.length).takeWhile inNumber ≠ [] := by
        rw [later, first]
        simp [digit]
      rw [parseValue_number round here digit, parseNumber_eq, if_neg some']
      cases toDouble round ((s.drop before.length).takeWhile inNumber) with
      | some x => exact .inl ⟨_, rfl⟩
      | none => exact .inr rfl
  · rw [parseValue_value round read span (by omega) fun found => absurd found number]
    exact .inl ⟨v, rfl⟩

theorem exact_iff (s : Utf16) :
    (Exact round s ↔
      (∃ v, Json.Text (Json.rfc8259 round) s v) ∨ (¬ HasValue round s ∧ ¬ Falls round s)) ∧
      parse round s ≠ .error .indexOutOfBounds ∧ parse round s ≠ .error .outOfFuel := by
  have ends := parse_ends (s := s) round
  refine ⟨⟨?_, ?_⟩, ?_, ?_⟩
  · rintro ⟨_, refuses⟩
    by_cases text : ∃ v, Json.Text (Json.rfc8259 round) s v
    · exact .inl text
    obtain ⟨reason, run⟩ := refuses text
    refine .inr ⟨fun value => ?_, fun falls => ?_⟩
    · obtain ⟨v, other⟩ | other := parse_hasValue round value <;> rw [run] at other <;> cases other
    · have other := parse_falls round falls
      rw [run] at other
      cases other
  · rintro (⟨v, text⟩ | ⟨noValue, noFall⟩)
    · have run := parse_text round text
      refine ⟨fun w => ⟨fun same => ?_, parse_text round⟩, fun none => absurd ⟨v, text⟩ none⟩
      rw [run] at same
      cases same
      exact text
    · have noText : ¬ ∃ v, Json.Text (Json.rfc8259 round) s v := by
        rintro ⟨v, text⟩
        rw [parse_text round text] at ends
        exact noValue ends
      cases run : parse round s with
      | ok v =>
        rw [run] at ends
        exact absurd ends noValue
      | error failure =>
        rw [run] at ends
        cases failure with
        | illegalState reason =>
          refine ⟨fun w => ⟨fun same => ?_, fun text => absurd ⟨w, text⟩ noText⟩, fun _ => ⟨reason, run⟩⟩
          rw [run] at same
          cases same
        | numberFormat => exact absurd ends noFall
        | indexOutOfBounds => exact ends.elim
        | outOfFuel => exact ends.elim
  · intro run
    rw [run] at ends
    exact ends
  · intro run
    rw [run] at ends
    exact ends

def double (negative : Bool) (magnitude : ℚ) : Double := .ofRat (if negative then -magnitude else magnitude)

theorem strayBracket_accepted :
    ¬ Exact double (Utf16.ofString "[]]") ∧ parse double (Utf16.ofString "[]]") = .ok (.array []) := by
  have run : parseValue double (Utf16.ofString "[]]") ((Utf16.ofString "[]]").length + 1) 0 = .ok (.array [], 2) := rfl
  have returned : parse double (Utf16.ofString "[]]") = .ok (.array []) := by
    rw [parse_eq, run]
    rfl
  refine ⟨fun right => ?_, returned⟩
  obtain ⟨j, same, blank⟩ := parseValue_text double ((right.1 _).mp returned)
  rw [run] at same
  cases same
  exact absurd (blank 0x5D (by decide)) (by decide)

end RealtimePlatform.Proof.JsonAcceptance
