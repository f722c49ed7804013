import RealtimePlatform.Proof.JsonSoundness

namespace RealtimePlatform.Proof.JsonCompleteness
open Library Sdk.MinimalJson JsonTokens JsonSoundness

variable {δ : Type} (round : Bool → ℚ → δ) {s : Utf16}

theorem stringLoop_unicode {four : Utf16} (length : four.length = 4) {i j : Nat}
    (span : Reads s i (0x5C :: 0x75 :: four) j) (fuel : Nat) (sb : Utf16) :
    stringLoop s (fuel + 1) sb i =
      (toInt16 four).elim (.error .numberFormat) fun n => stringLoop s fuel (sb ++ [toChar n]) j := by
  obtain ⟨first, later⟩ := span.cons
  obtain ⟨second, digits⟩ := later.cons
  obtain rfl : j = i + 1 + 4 + 1 := by rw [digits.2, length]
  have bound : i + 1 + 4 + 1 ≤ s.length := span.le_length (by simp)
  rw [stringLoop, check_pos first.lt_length, charAt_eq first.getElem?_eq]
  change (check (i + 1 < s.length) _ >>= fun _ => charAt s (i + 1) >>= _) = _
  rw [check_pos second.lt_length, charAt_eq second.getElem?_eq]
  change (check (i + 1 + 4 < s.length) _ >>= fun _ => substring s (i + 1 + 1) (i + 1 + 4 + 1) >>= _) = _
  rw [check_pos (show i + 1 + 4 < s.length from bound), ok_bind, substring_eq digits bound, ok_bind]
  cases toInt16 four <;> rfl

theorem stringLoop_chars {inside value : Utf16} (chars : Json.Chars (lexicon round) inside value) {i j : Nat}
    (span : Reads s i inside j) (fuel : Nat) (sb : Utf16) :
    stringLoop s (value.length + fuel) sb i = stringLoop s fuel (sb ++ value) j := by
  induction chars generalizing i sb with
  | nil =>
    obtain rfl : j = i := span.2
    simp
  | @raw u text value plain _ ih =>
    obtain ⟨first, rest⟩ := span.cons
    obtain ⟨quote, backslash⟩ : u ≠ 0x22 ∧ u ≠ 0x5C := of_decide_eq_true plain
    have turn : stringLoop s (value.length + fuel + 1) sb i = stringLoop s (value.length + fuel) (sb ++ [u]) (i + 1) := by
      rw [stringLoop, check_pos first.lt_length, charAt_eq first.getElem?_eq]
      exact (if_neg quote).trans (if_neg backslash)
    rw [List.length_cons, Nat.add_right_comm, turn, ih rest, List.append_assoc]
    rfl
  | @escape u meant text value escaped _ ih =>
    obtain ⟨first, later⟩ := span.cons
    obtain ⟨second, rest⟩ := later.cons
    have turn : stringLoop s (value.length + fuel + 1) sb i =
        stringLoop s (value.length + fuel) (sb ++ [meant]) (i + 1 + 1) := by
      rw [stringLoop, check_pos first.lt_length, charAt_eq first.getElem?_eq]
      change (check (i + 1 < s.length) _ >>= fun _ => charAt s (i + 1) >>= _) = _
      rw [check_pos second.lt_length, ok_bind, charAt_eq second.getElem?_eq, ok_bind]
      rw [escaped]
    rw [List.length_cons, Nat.add_right_comm, turn, ih rest, List.append_assoc]
    rfl
  | @unicode four meant text value length named _ ih =>
    have shape : (0x5C :: 0x75 :: (four ++ text) : Utf16) = (0x5C :: 0x75 :: four) ++ text := rfl
    obtain ⟨k, item, rest⟩ := (shape ▸ span).split
    obtain ⟨n, parsed, rfl⟩ := Option.map_eq_some_iff.mp named
    rw [List.length_cons, Nat.add_right_comm, stringLoop_unicode length item, parsed, Option.elim_some, ih rest,
      List.append_assoc]
    rfl

theorem parseString_quoted {inside value : Utf16} (chars : Json.Chars (lexicon round) inside value) {i j : Nat}
    (span : Reads s i (Json.quoted inside) j) : parseString s i = .ok (value, j) := by
  obtain ⟨first, later⟩ := span.cons
  obtain ⟨k, body, last⟩ := later.split
  have short := chars.length_le
  have room : value.length ≤ s.length := by
    have bound := last.lt_length
    have size := body.2
    omega
  have fuel : s.length + 1 = value.length + (s.length - value.length + 1) := by omega
  have start : parseString s i = stringLoop s (s.length + 1) [] (i + 1) := by
    rw [parseString, expect, check_pos first.getElem?_eq]
    rfl
  rw [start, fuel, stringLoop_chars round chars body, stringLoop, check_pos last.lt_length,
    charAt_eq last.getElem?_eq, last.2]
  rfl

theorem parseString_bad {rest : Utf16} (bad : BadEscape round rest) {i : Nat} (shape : s.drop i = 0x22 :: rest) :
    parseString s i = .error .numberFormat := by
  obtain ⟨inside, value, four, after, rfl, chars, length, refused⟩ := bad
  have whole : s.drop i = [0x22] ++ (inside ++ ((0x5C :: 0x75 :: four) ++ after)) := by
    rw [shape]
    simp
  obtain ⟨first, more⟩ := Reads.of_drop whole
  obtain ⟨body, escape⟩ := Reads.of_drop more
  obtain ⟨item, _⟩ := Reads.of_drop escape
  have short := chars.length_le
  have room : value.length ≤ s.length := by
    have bound := item.lt_length
    have size := body.2
    omega
  have fuel : s.length + 1 = value.length + (s.length - value.length + 1) := by omega
  have start : parseString s i = stringLoop s (s.length + 1) [] (i + [(0x22 : UInt16)].length) := by
    rw [parseString, expect, check_pos first.getElem?_eq]
    rfl
  rw [start, fuel, stringLoop_chars round chars body, stringLoop_unicode length item, refused]
  rfl

def openers : List UInt16 := [0x6E, 0x74, 0x66, 0x22, 0x5B, 0x7B]

def Starts (c : UInt16) : Prop := inNumber c = true ∨ c ∈ openers

theorem inNumber_of_isWhitespace {c : UInt16} (blank : isWhitespace c = true) : inNumber c = false := by
  have numbers : whitespace.all (fun u => !inNumber u) = true := by decide
  simpa using List.all_eq_true.mp numbers c (List.contains_iff_mem.mp blank)

theorem Starts.not_space {c : UInt16} (starts : Starts c) : isWhitespace c = false := by
  cases blank : isWhitespace c with
  | false => rfl
  | true =>
    obtain digit | listed := starts
    · rw [inNumber_of_isWhitespace blank] at digit
      cases digit
    · have other : openers.all (fun u => !isWhitespace u) = true := by decide
      have visible := List.all_eq_true.mp other c listed
      rw [blank] at visible
      cases visible

theorem Starts.ne {c d : UInt16} (starts : Starts c) (number : inNumber d = false)
    (other : d ∉ openers) : c ≠ d := by
  rintro rfl
  obtain digit | listed := starts
  · rw [number] at digit
    cases digit
  · exact other listed

def Opens (first : UInt16 → Prop) (text : Utf16) : Prop :=
  ∃ before c rest, text = before ++ (c :: rest) ∧ (lexicon round).Spaces before ∧ first c

theorem number_starts {token : Utf16} {x : δ} (read : (lexicon round).number token x) :
    ∃ c rest, token = c :: rest ∧ inNumber c = true := by
  obtain ⟨legal, parsed⟩ := read
  cases token with
  | nil => cases parsed
  | cons c rest => exact ⟨c, rest, rfl, legal c List.mem_cons_self⟩

theorem value_starts {inner : Utf16} {v : Json δ} (read : Json.Value (lexicon round) inner v) :
    ∃ c rest, inner = c :: rest ∧ Starts c := by
  cases read with
  | null => exact ⟨_, _, rfl, .inr (by decide)⟩
  | true => exact ⟨_, _, rfl, .inr (by decide)⟩
  | false => exact ⟨_, _, rfl, .inr (by decide)⟩
  | number read =>
    obtain ⟨c, rest, shape, digit⟩ := number_starts round read
    exact ⟨c, rest, shape, .inl digit⟩
  | string _ => exact ⟨_, _, rfl, .inr (by decide)⟩
  | emptyArray _ => exact ⟨_, _, rfl, .inr (by decide)⟩
  | array => exact ⟨_, _, rfl, .inr (by decide)⟩
  | emptyObject _ => exact ⟨_, _, rfl, .inr (by decide)⟩
  | object => exact ⟨_, _, rfl, .inr (by decide)⟩

theorem chokes_starts {text : Utf16} (chokes : Chokes round text) : ∃ c rest, text = c :: rest ∧ Starts c := by
  cases chokes with
  | @number token rest nonempty legal _ _ =>
    obtain ⟨c, more, rfl⟩ := List.exists_cons_of_ne_nil nonempty
    exact ⟨c, more ++ rest, rfl, .inl (legal c List.mem_cons_self)⟩
  | string _ => exact ⟨_, _, rfl, .inr (by decide)⟩
  | array => exact ⟨_, _, rfl, .inr (by decide)⟩
  | name => exact ⟨_, _, rfl, .inr (by decide)⟩
  | member => exact ⟨_, _, rfl, .inr (by decide)⟩

theorem opens_skip {first : UInt16 → Prop} {text : Utf16} (opens : Opens round first text)
    (other : ∀ c, first c → isWhitespace c = false) {i j : Nat} (span : Reads s i text j) :
    ∃ c, s[skipWhitespace s i]? = some c ∧ first c := by
  obtain ⟨before, c, rest, rfl, blank, holds⟩ := opens
  obtain ⟨k, margin, later⟩ := span.split
  have here := later.getElem?_eq
  exact ⟨c, by rw [skipWhitespace_to margin blank here (other c holds), here], holds⟩

section Loops

variable {parseValue : Nat → Except Failure (Json δ × Nat)} {limit : Nat}

def Understood (s : Utf16) (parseValue : Nat → Except Failure (Json δ × Nat)) (limit : Nat) (text : Utf16)
    (v : Json δ) : Prop :=
  ∀ i j, Reads s i text j → s.length - i < limit → (∀ u ∈ s[j]?, inNumber u = false) → parseValue i = .ok (v, j)

theorem parseValue_element (blind : ∀ i, parseValue (skipWhitespace s i) = parseValue i) {e : Json.Element δ}
    (spaced : e.Spaced (lexicon round)) (read : Json.Value (lexicon round) e.text e.value)
    (understood : Understood s parseValue limit e.text e.value) {i k : Nat} (span : Reads s i e.whole k)
    (enough : s.length - i < limit) {c : UInt16} (sign : s[k]? = some c) (stop : inNumber c = false)
    (visible : isWhitespace c = false) : ∃ j, parseValue i = .ok (e.value, j) ∧ skipWhitespace s j = k := by
  obtain ⟨a, before, later⟩ := span.split
  obtain ⟨b, text, after⟩ := later.split
  obtain ⟨first, rest, shape, starts⟩ := value_starts round read
  have onward := before.le
  have begun := text
  rw [shape] at begun
  have number : ∀ u ∈ s[b]?, inNumber u = false := by
    cases gap : e.after with
    | nil =>
      obtain rfl : k = b := by simpa [gap] using after.2
      rw [sign]
      rintro _ ⟨⟩
      exact stop
    | cons u more =>
      have blank := after
      rw [gap] at blank
      rw [blank.getElem?_eq]
      rintro _ ⟨⟩
      exact inNumber_of_isWhitespace (spaced.2 u (gap ▸ List.mem_cons_self))
  refine ⟨b, ?_, skipWhitespace_to after spaced.2 sign visible⟩
  rw [← blind, skipWhitespace_to before spaced.1 begun.getElem?_eq starts.not_space]
  exact understood a b text (by omega) number

theorem arrayLoop_element (blind : ∀ i, parseValue (skipWhitespace s i) = parseValue i) {e : Json.Element δ}
    (spaced : e.Spaced (lexicon round)) (read : Json.Value (lexicon round) e.text e.value)
    (understood : Understood s parseValue limit e.text e.value) {i k : Nat} {c : UInt16}
    (span : Reads s i (e.whole ++ [c]) (k + 1)) (enough : s.length - i < limit) (mark : c = 0x2C ∨ c = 0x5D)
    (fuel : Nat) (list : List (Json δ)) :
    arrayLoop s parseValue (fuel + 1) list i =
      if c = 0x2C then arrayLoop s parseValue fuel (list ++ [e.value]) (k + 1)
      else .ok (.array (list ++ [e.value]), k + 1) := by
  obtain ⟨k', whole, sign⟩ := span.split
  obtain rfl : k' = k := Nat.succ.inj sign.2.symm
  have plain : inNumber c = false ∧ isWhitespace c = false := by
    obtain rfl | rfl := mark <;> decide
  obtain ⟨j, value, skipped⟩ := parseValue_element round blind spaced read understood whole enough sign.getElem?_eq
    plain.1 plain.2
  rw [arrayLoop, value]
  change (check (skipWhitespace s j < s.length) _ >>= fun _ => charAt s (skipWhitespace s j) >>= _) = _
  rw [skipped, check_pos sign.lt_length, charAt_eq sign.getElem?_eq]
  obtain rfl | rfl := mark <;> rfl

theorem arrayLoop_init (blind : ∀ i, parseValue (skipWhitespace s i) = parseValue i) (init : List (Json.Element δ))
    (spaced : ∀ e ∈ init, e.Spaced (lexicon round)) (read : ∀ e ∈ init, Json.Value (lexicon round) e.text e.value)
    (understood : ∀ e ∈ init, Understood s parseValue limit e.text e.value) {i j : Nat}
    (span : Reads s i (Json.separated (init.map Json.Element.whole)) j) (enough : s.length - i < limit) (fuel : Nat)
    (list : List (Json δ)) :
    arrayLoop s parseValue (init.length + fuel) list i =
      arrayLoop s parseValue fuel (list ++ init.map Json.Element.value) j := by
  induction init generalizing i list with
  | nil =>
    obtain rfl : j = i := span.2
    simp
  | cons e rest ih =>
    rw [List.forall_mem_cons] at spaced read understood
    rw [List.map_cons, Json.separated, List.flatMap_cons] at span
    obtain ⟨k, item, later⟩ := span.split
    have onward := item.le
    obtain ⟨m, whole, sign⟩ := item.split
    obtain rfl : k = m + 1 := sign.2
    rw [List.length_cons, Nat.add_right_comm,
      arrayLoop_element round blind spaced.1 read.1 understood.1 item enough (.inl rfl), if_pos rfl,
      ih spaced.2 read.2 understood.2 later (by omega), List.append_assoc]
    rfl

theorem opens_items (init : List (Json.Element δ)) (spaced : ∀ e ∈ init, e.Spaced (lexicon round))
    (read : ∀ e ∈ init, Json.Value (lexicon round) e.text e.value) {text : Utf16} (opens : Opens round Starts text) :
    Opens round Starts (Json.separated (init.map Json.Element.whole) ++ text) := by
  cases init with
  | nil => exact opens
  | cons e rest =>
    obtain ⟨c, more, shape, starts⟩ := value_starts round (read e List.mem_cons_self)
    refine ⟨e.before, c, more ++ (e.after ++ [0x2C] ++ (Json.separated (rest.map Json.Element.whole) ++ text)), ?_,
      (spaced e List.mem_cons_self).1, starts⟩
    simp [Json.separated, Json.Element.whole, shape]

theorem parseArray_eq (blind : ∀ i, parseValue (skipWhitespace s i) = parseValue i) {text : Utf16} {i j : Nat}
    (span : Reads s i (0x5B :: text) j) (opens : Opens round Starts text) :
    parseArray s parseValue limit i = arrayLoop s parseValue limit [] (i + 1) := by
  obtain ⟨sign, later⟩ := span.cons
  obtain ⟨c, here, starts⟩ := opens_skip round opens (fun _ => Starts.not_space) later
  have other : s[skipWhitespace s (i + 1)]? ≠ some 0x5D := by
    rw [here, ne_eq, Option.some.injEq]
    exact starts.ne (by decide) (by decide)
  rw [parseArray, expect, check_pos sign.getElem?_eq]
  refine (if_neg other).trans ?_
  exact arrayLoop_skipWhitespace blind limit [] (i + 1)

theorem label_reads {label : Json.Label} (valid : label.Valid (lexicon round)) {i k : Nat}
    (span : Reads s i label.whole k) :
    ∃ b, parseString s (skipWhitespace s i) = .ok (label.name, b) ∧ expect s 0x3A (skipWhitespace s b) = .ok k := by
  obtain ⟨a, before, later⟩ := span.split
  obtain ⟨b, name, more⟩ := later.split
  obtain ⟨d, after, colon⟩ := more.split
  refine ⟨b, ?_, ?_⟩
  · rw [skipWhitespace_to before valid.1 name.getElem?_eq (by decide), parseString_quoted round valid.2.1 name]
  · rw [skipWhitespace_to after valid.2.2 colon.getElem?_eq (by decide), expect, check_pos colon.getElem?_eq, colon.2]
    rfl

theorem objectLoop_label {label : Json.Label} (valid : label.Valid (lexicon round)) {i k : Nat}
    (span : Reads s i label.whole k) (fuel : Nat) (map : List (Utf16 × Json δ)) {failure : Failure}
    (failed : parseValue k = .error failure) : objectLoop s parseValue (fuel + 1) map i = .error failure := by
  obtain ⟨b, key, colon⟩ := label_reads round valid span
  rw [objectLoop, key]
  change (expect s 0x3A (skipWhitespace s b) >>= _) = _
  rw [colon]
  change (parseValue k >>= _) = _
  rw [failed]
  rfl

theorem objectLoop_member (blind : ∀ i, parseValue (skipWhitespace s i) = parseValue i) {m : Json.Member δ}
    (valid : m.label.Valid (lexicon round)) (spaced : m.element.Spaced (lexicon round))
    (read : Json.Value (lexicon round) m.element.text m.element.value)
    (understood : Understood s parseValue limit m.element.text m.element.value) {i k : Nat} {c : UInt16}
    (span : Reads s i (m.whole ++ [c]) (k + 1)) (enough : s.length - i < limit) (mark : c = 0x2C ∨ c = 0x7D)
    (fuel : Nat) (past : List (Json.Member δ)) :
    objectLoop s parseValue (fuel + 1) (Json.entries past) i =
      if c = 0x2C then objectLoop s parseValue fuel (Json.entries (past ++ [m])) (k + 1)
      else .ok (.object (Json.entries (past ++ [m])), k + 1) := by
  obtain ⟨k', whole, sign⟩ := span.split
  obtain rfl : k' = k := Nat.succ.inj sign.2.symm
  obtain ⟨a, label, element⟩ := whole.split
  have onward := label.le
  have plain : inNumber c = false ∧ isWhitespace c = false := by
    obtain rfl | rfl := mark <;> decide
  obtain ⟨b, key, colon⟩ := label_reads round valid label
  obtain ⟨j, value, skipped⟩ := parseValue_element round blind spaced read understood element (by omega)
    sign.getElem?_eq plain.1 plain.2
  have grown : Json.put m.label.name m.element.value (Json.entries past) = Json.entries (past ++ [m]) := by
    rw [Json.entries, Json.entries, List.foldl_concat]
  rw [objectLoop, key]
  change (expect s 0x3A (skipWhitespace s b) >>= _) = _
  rw [colon]
  change (parseValue a >>= _) = _
  rw [value]
  change (check (skipWhitespace s j < s.length) _ >>= fun _ => charAt s (skipWhitespace s j) >>= _) = _
  rw [skipped, check_pos sign.lt_length, charAt_eq sign.getElem?_eq, grown]
  obtain rfl | rfl := mark <;> rfl

theorem objectLoop_init (blind : ∀ i, parseValue (skipWhitespace s i) = parseValue i) (init : List (Json.Member δ))
    (valid : ∀ m ∈ init, m.label.Valid (lexicon round)) (spaced : ∀ m ∈ init, m.element.Spaced (lexicon round))
    (read : ∀ m ∈ init, Json.Value (lexicon round) m.element.text m.element.value)
    (understood : ∀ m ∈ init, Understood s parseValue limit m.element.text m.element.value) {i j : Nat}
    (span : Reads s i (Json.separated (init.map Json.Member.whole)) j) (enough : s.length - i < limit) (fuel : Nat)
    (past : List (Json.Member δ)) :
    objectLoop s parseValue (init.length + fuel) (Json.entries past) i =
      objectLoop s parseValue fuel (Json.entries (past ++ init)) j := by
  induction init generalizing i past with
  | nil =>
    obtain rfl : j = i := span.2
    simp
  | cons m rest ih =>
    rw [List.forall_mem_cons] at valid spaced read understood
    rw [List.map_cons, Json.separated, List.flatMap_cons] at span
    obtain ⟨k, item, later⟩ := span.split
    have onward := item.le
    obtain ⟨a, whole, sign⟩ := item.split
    obtain rfl : k = a + 1 := sign.2
    rw [List.length_cons, Nat.add_right_comm,
      objectLoop_member round blind valid.1 spaced.1 read.1 understood.1 item enough (.inl rfl), if_pos rfl,
      ih valid.2 spaced.2 read.2 understood.2 later (by omega), List.append_assoc]
    rfl

theorem opens_members (init : List (Json.Member δ)) (valid : ∀ m ∈ init, m.label.Valid (lexicon round))
    {text : Utf16} (opens : Opens round (· = 0x22) text) :
    Opens round (· = 0x22) (Json.separated (init.map Json.Member.whole) ++ text) := by
  cases init with
  | nil => exact opens
  | cons m rest =>
    refine ⟨m.label.before, 0x22, m.label.inside ++ ([0x22] ++ (m.label.after ++ ([0x3A] ++ (m.element.whole ++
      ([0x2C] ++ (Json.separated (rest.map Json.Member.whole) ++ text)))))), ?_, (valid m List.mem_cons_self).1, rfl⟩
    simp [Json.separated, Json.Member.whole, Json.Label.whole, Json.quoted]

theorem parseObject_eq {text : Utf16} {i j : Nat} (span : Reads s i (0x7B :: text) j)
    (opens : Opens round (· = 0x22) text) :
    parseObject s parseValue limit i = objectLoop s parseValue limit (Json.entries []) (i + 1) := by
  obtain ⟨sign, later⟩ := span.cons
  obtain ⟨c, here, rfl⟩ := opens_skip round opens (fun c quote => by subst quote; decide) later
  have other : s[skipWhitespace s (i + 1)]? ≠ some 0x7D := by
    rw [here]
    decide
  rw [parseObject, expect, check_pos sign.getElem?_eq]
  refine (if_neg other).trans ?_
  exact objectLoop_skipWhitespace limit [] (i + 1)

end Loops

theorem parseValue_at {i : Nat} {c : UInt16} (here : s[i]? = some c) (visible : isWhitespace c = false) (fuel : Nat) :
    parseValue round s (fuel + 1) i =
      if c = 0x7B then parseObject s (parseValue round s fuel) fuel i
      else if c = 0x5B then parseArray s (parseValue round s fuel) fuel i
      else if c = 0x22 then (parseString s i).map fun (value, i) => (.string value, i)
      else if startsWith s (Utf16.ofString "true") i then .ok (.bool true, i + 4)
      else if startsWith s (Utf16.ofString "false") i then .ok (.bool false, i + 5)
      else if startsWith s (Utf16.ofString "null") i then .ok (.null, i + 4)
      else (parseNumber round s i).map fun (x, i) => (.number x, i) := by
  have still : skipWhitespace s i = i :=
    skipWhitespace_to Reads.nil (fun _ member => absurd member List.not_mem_nil) here visible
  rw [parseValue]
  dsimp only
  rw [still, check_pos (List.getElem?_eq_some_iff.mp here).1, charAt_eq here]
  rfl

theorem startsWith_of_reads {word : Utf16} {i j : Nat} (span : Reads s i word j) : startsWith s word i = true :=
  List.isPrefixOf_iff_prefix.mpr ⟨s.drop j, span.1.symm⟩

theorem startsWith_eq_false {word : Utf16} {i : Nat} {c d : UInt16} (here : s[i]? = some c)
    (first : word.head? = some d) (other : c ≠ d) : startsWith s word i = false := by
  cases found : startsWith s word i with
  | false => rfl
  | true =>
    have span := reads_of_startsWith found
    obtain ⟨rest, rfl⟩ := List.head?_eq_some_iff.mp first
    rw [span.getElem?_eq] at here
    exact absurd (Option.some.inj here).symm other

theorem parseValue_number {i : Nat} {c : UInt16} (here : s[i]? = some c) (digit : inNumber c = true) (fuel : Nat) :
    parseValue round s (fuel + 1) i = (parseNumber round s i).map fun (x, i) => (.number x, i) := by
  have other : ∀ d : UInt16, inNumber d = false → c ≠ d := by
    rintro d plain rfl
    rw [plain] at digit
    cases digit
  rw [parseValue_at round here (Starts.not_space (.inl digit)), if_neg (other _ (by decide)),
    if_neg (other _ (by decide)), if_neg (other _ (by decide)),
    startsWith_eq_false here (d := 0x74) rfl (other _ (by decide)),
    startsWith_eq_false here (d := 0x66) rfl (other _ (by decide)),
    startsWith_eq_false here (d := 0x6E) rfl (other _ (by decide))]
  rfl

theorem parseNumber_token {token : Utf16} {i j : Nat} (nonempty : token ≠ [])
    (legal : ∀ u ∈ token, inNumber u = true) (span : Reads s i token j) (stop : ∀ u ∈ s[j]?, inNumber u = false) :
    parseNumber round s i = (toDouble round token).elim (.error .numberFormat) fun x => .ok (x, j) := by
  rw [parseNumber_eq, span.takeWhile_eq legal stop, if_neg nonempty, span.2]

theorem parseValue_bracket (init : List (Json.Element δ)) (spaced : ∀ e ∈ init, e.Spaced (lexicon round))
    (read : ∀ e ∈ init, Json.Value (lexicon round) e.text e.value) {fuel : Nat}
    (understood : ∀ e ∈ init, Understood s (parseValue round s fuel) fuel e.text e.value) {i k : Nat}
    (span : Reads s i (0x5B :: Json.separated (init.map Json.Element.whole)) k)
    (opens : Opens round Starts (s.drop k)) (enough : s.length - i < fuel + 1) :
    ∃ room, parseValue round s (fuel + 1) i =
      arrayLoop s (parseValue round s fuel) (room + 1) (init.map Json.Element.value) k := by
  have here : s[i]? = some 0x5B := span.getElem?_eq
  have bound := span.le_length (by simp)
  have size := span.2
  have count := Json.length_le_separated (init.map Json.Element.whole)
  rw [List.length_map] at count
  rw [List.length_cons] at size
  have rest : Reads s k (s.drop k) (k + (s.drop k).length) := (Reads.of_drop (List.append_nil _).symm).1
  have blind := parseValue_skipWhitespace round (s := s) fuel
  refine ⟨fuel - init.length - 1, ?_⟩
  have split : fuel = init.length + (fuel - init.length - 1 + 1) := by omega
  have loop := arrayLoop_init round blind init spaced read understood span.cons.2 (by omega)
    (fuel - init.length - 1 + 1) []
  rw [← split, List.nil_append] at loop
  rw [parseValue_at round here (by decide), if_neg (by decide), if_pos rfl,
    parseArray_eq round blind (span.append rest) (opens_items round init spaced read opens), loop]

theorem parseValue_brace (init : List (Json.Member δ)) (valid : ∀ m ∈ init, m.label.Valid (lexicon round))
    (spaced : ∀ m ∈ init, m.element.Spaced (lexicon round))
    (read : ∀ m ∈ init, Json.Value (lexicon round) m.element.text m.element.value) {fuel : Nat}
    (understood : ∀ m ∈ init, Understood s (parseValue round s fuel) fuel m.element.text m.element.value) {i k : Nat}
    (span : Reads s i (0x7B :: Json.separated (init.map Json.Member.whole)) k)
    (opens : Opens round (· = 0x22) (s.drop k)) (enough : s.length - i < fuel + 1) :
    ∃ room, parseValue round s (fuel + 1) i =
      objectLoop s (parseValue round s fuel) (room + 1) (Json.entries init) k := by
  have here : s[i]? = some 0x7B := span.getElem?_eq
  have bound := span.le_length (by simp)
  have size := span.2
  have count := Json.length_le_separated (init.map Json.Member.whole)
  rw [List.length_map] at count
  rw [List.length_cons] at size
  have rest : Reads s k (s.drop k) (k + (s.drop k).length) := (Reads.of_drop (List.append_nil _).symm).1
  have blind := parseValue_skipWhitespace round (s := s) fuel
  refine ⟨fuel - init.length - 1, ?_⟩
  have split : fuel = init.length + (fuel - init.length - 1 + 1) := by omega
  have loop := objectLoop_init round blind init valid spaced read understood span.cons.2 (by omega)
    (fuel - init.length - 1 + 1) []
  rw [← split, List.nil_append] at loop
  rw [parseValue_at round here (by decide), if_pos rfl,
    parseObject_eq round (span.append rest) (opens_members round init valid opens), loop]

theorem skipWhitespace_blank {i j : Nat} {spaces : Utf16} {c : UInt16} (span : Reads s i (spaces ++ [c]) j)
    (blank : (lexicon round).Spaces spaces) (visible : isWhitespace c = false) :
    s[skipWhitespace s i]? = some c ∧ j = skipWhitespace s i + 1 := by
  obtain ⟨k, margin, close⟩ := span.split
  rw [skipWhitespace_to margin blank close.getElem?_eq visible]
  exact ⟨close.getElem?_eq, close.2⟩

theorem parseValue_value {inner : Utf16} {v : Json δ} (read : Json.Value (lexicon round) inner v) {fuel i j : Nat}
    (span : Reads s i inner j) (enough : s.length - i < fuel)
    (stop : (∃ x, v = .number x) → ∀ u ∈ s[j]?, inNumber u = false) :
    parseValue round s fuel i = .ok (v, j) := by
  induction read generalizing fuel i j with
  | null =>
    obtain ⟨fuel, rfl⟩ := Nat.exists_eq_add_one_of_ne_zero (Nat.ne_zero_of_lt enough)
    have here : s[i]? = some 0x6E := span.getElem?_eq
    rw [parseValue_at round here (by decide), startsWith_eq_false here (d := 0x74) rfl (by decide),
      startsWith_eq_false here (d := 0x66) rfl (by decide), startsWith_of_reads span, span.2]
    rfl
  | true =>
    obtain ⟨fuel, rfl⟩ := Nat.exists_eq_add_one_of_ne_zero (Nat.ne_zero_of_lt enough)
    have here : s[i]? = some 0x74 := span.getElem?_eq
    rw [parseValue_at round here (by decide), startsWith_of_reads span, span.2]
    rfl
  | false =>
    obtain ⟨fuel, rfl⟩ := Nat.exists_eq_add_one_of_ne_zero (Nat.ne_zero_of_lt enough)
    have here : s[i]? = some 0x66 := span.getElem?_eq
    rw [parseValue_at round here (by decide), startsWith_eq_false here (d := 0x74) rfl (by decide),
      startsWith_of_reads span, span.2]
    rfl
  | @number token x token_read =>
    obtain ⟨fuel, rfl⟩ := Nat.exists_eq_add_one_of_ne_zero (Nat.ne_zero_of_lt enough)
    obtain ⟨c, rest, rfl, digit⟩ := number_starts round token_read
    rw [parseValue_number round span.getElem?_eq digit,
      parseNumber_token round (by simp) token_read.1 span (stop ⟨x, rfl⟩), token_read.2]
    rfl
  | string chars =>
    obtain ⟨fuel, rfl⟩ := Nat.exists_eq_add_one_of_ne_zero (Nat.ne_zero_of_lt enough)
    have here : s[i]? = some 0x22 := span.getElem?_eq
    rw [parseValue_at round here (by decide), parseString_quoted round chars span]
    rfl
  | emptyArray blank =>
    obtain ⟨fuel, rfl⟩ := Nat.exists_eq_add_one_of_ne_zero (Nat.ne_zero_of_lt enough)
    obtain ⟨sign, later⟩ := span.cons
    obtain ⟨close, ended⟩ := skipWhitespace_blank round later blank (by decide)
    rw [parseValue_at round sign.getElem?_eq (by decide), if_neg (by decide), if_pos rfl, parseArray, expect,
      check_pos sign.getElem?_eq]
    exact (if_pos close).trans (ended ▸ rfl)
  | emptyObject blank =>
    obtain ⟨fuel, rfl⟩ := Nat.exists_eq_add_one_of_ne_zero (Nat.ne_zero_of_lt enough)
    obtain ⟨sign, later⟩ := span.cons
    obtain ⟨close, ended⟩ := skipWhitespace_blank round later blank (by decide)
    rw [parseValue_at round sign.getElem?_eq (by decide), if_pos rfl, parseObject, expect, check_pos sign.getElem?_eq]
    exact (if_pos close).trans (ended ▸ rfl)
  | array init last spaced read ih =>
    obtain ⟨fuel, rfl⟩ := Nat.exists_eq_add_one_of_ne_zero (Nat.ne_zero_of_lt enough)
    have understood : ∀ e ∈ init ++ [last], Understood s (parseValue round s fuel) fuel e.text e.value :=
      fun e member a b inside room number => ih e member inside room fun _ => number
    rw [List.forall_mem_append, List.forall_mem_singleton] at spaced read understood
    obtain ⟨k, items, final⟩ := (List.cons_append ▸ span : Reads s i ((0x5B :: _) ++ _) j).split
    obtain ⟨l, whole, close⟩ := final.split
    obtain rfl : j = l + 1 := close.2
    obtain ⟨first, rest, shape, starts⟩ := value_starts round read.2
    have opens : Opens round Starts (s.drop k) := by
      refine ⟨last.before, first, rest ++ (last.after ++ ([0x5D] ++ s.drop (l + 1))), ?_, spaced.2.1, starts⟩
      rw [final.1]
      simp [Json.Element.whole, shape]
    obtain ⟨room, loop⟩ := parseValue_bracket round init spaced.1 read.1 understood.1 items opens enough
    have onward := items.cons.2.le
    have bound := items.lt_length
    rw [loop, arrayLoop_element round (parseValue_skipWhitespace round fuel) spaced.2 read.2 understood.2 final
      (by omega) (.inr rfl), if_neg (by decide), List.map_append]
    rfl
  | object init last valid spaced read ih =>
    obtain ⟨fuel, rfl⟩ := Nat.exists_eq_add_one_of_ne_zero (Nat.ne_zero_of_lt enough)
    have understood : ∀ m ∈ init ++ [last],
        Understood s (parseValue round s fuel) fuel m.element.text m.element.value :=
      fun m member a b inside room number => ih m member inside room fun _ => number
    rw [List.forall_mem_append, List.forall_mem_singleton] at valid spaced read understood
    obtain ⟨k, items, final⟩ := (List.cons_append ▸ span : Reads s i ((0x7B :: _) ++ _) j).split
    obtain ⟨l, whole, close⟩ := final.split
    obtain rfl : j = l + 1 := close.2
    have opens : Opens round (· = 0x22) (s.drop k) := by
      refine ⟨last.label.before, 0x22, last.label.inside ++ ([0x22] ++ (last.label.after ++ ([0x3A] ++
        (last.element.whole ++ ([0x7D] ++ s.drop (l + 1)))))), ?_, valid.2.1, rfl⟩
      rw [final.1]
      simp [Json.Member.whole, Json.Label.whole, Json.quoted]
    obtain ⟨room, loop⟩ := parseValue_brace round init valid.1 spaced.1 read.1 understood.1 items opens enough
    have onward := items.cons.2.le
    have bound := items.lt_length
    rw [loop, objectLoop_member round (parseValue_skipWhitespace round fuel) valid.2 spaced.2 read.2 understood.2 final
      (by omega) (.inr rfl), if_neg (by decide)]

theorem understood_of_value {text : Utf16} {v : Json δ} (read : Json.Value (lexicon round) text v) (fuel : Nat) :
    Understood s (parseValue round s fuel) fuel text v :=
  fun _ _ span enough number => parseValue_value round read span enough fun _ => number

theorem parseValue_margin {fuel i j : Nat} {before : Utf16} {c : UInt16} (margin : Reads s i before j)
    (blank : (lexicon round).Spaces before) (here : s[j]? = some c) (visible : isWhitespace c = false) :
    parseValue round s fuel i = parseValue round s fuel j := by
  rw [← parseValue_skipWhitespace, skipWhitespace_to margin blank here visible]

theorem parseValue_chokes {text : Utf16} (chokes : Chokes round text) {fuel i : Nat} (shape : s.drop i = text)
    (enough : s.length - i < fuel) : parseValue round s fuel i = .error .numberFormat := by
  induction chokes generalizing fuel i with
  | @number token rest nonempty legal stop refused =>
    obtain ⟨fuel, rfl⟩ := Nat.exists_eq_add_one_of_ne_zero (Nat.ne_zero_of_lt enough)
    obtain ⟨span, later⟩ := Reads.of_drop shape
    obtain ⟨c, more, rfl⟩ := List.exists_cons_of_ne_nil nonempty
    rw [← later, List.head?_drop] at stop
    rw [parseValue_number round span.getElem?_eq (legal c List.mem_cons_self),
      parseNumber_token round nonempty legal span stop, refused]
    rfl
  | string bad =>
    obtain ⟨fuel, rfl⟩ := Nat.exists_eq_add_one_of_ne_zero (Nat.ne_zero_of_lt enough)
    have here := Reads.getElem?_of_drop shape
    rw [parseValue_at round here (by decide), parseString_bad round bad shape]
    rfl
  | @array init spaced read before rest blank next ih =>
    obtain ⟨fuel, rfl⟩ := Nat.exists_eq_add_one_of_ne_zero (Nat.ne_zero_of_lt enough)
    rw [← List.cons_append] at shape
    obtain ⟨items, later⟩ := Reads.of_drop shape
    obtain ⟨margin, value⟩ := Reads.of_drop later
    obtain ⟨c, more, first, starts⟩ := chokes_starts round next
    have opens : Opens round Starts (before ++ rest) := ⟨before, c, more, by rw [first], blank, starts⟩
    rw [← later] at opens
    obtain ⟨room, loop⟩ := parseValue_bracket round init spaced read
      (fun e member => understood_of_value round (read e member) fuel) items opens enough
    have onward := margin.le
    have bound := items.lt_length
    have past := items.cons.2.le
    have here := Reads.getElem?_of_drop (value.trans first)
    rw [loop, arrayLoop, parseValue_margin round margin blank here starts.not_space, ih value (by omega)]
    rfl
  | @name init valid spaced read before rest blank bad =>
    obtain ⟨fuel, rfl⟩ := Nat.exists_eq_add_one_of_ne_zero (Nat.ne_zero_of_lt enough)
    rw [← List.cons_append] at shape
    obtain ⟨items, later⟩ := Reads.of_drop shape
    obtain ⟨margin, quote⟩ := Reads.of_drop later
    have opens : Opens round (· = 0x22) (before ++ (0x22 :: rest)) := ⟨before, 0x22, rest, rfl, blank, rfl⟩
    rw [← later] at opens
    obtain ⟨room, loop⟩ := parseValue_brace round init valid spaced read
      (fun m member => understood_of_value round (read m member) fuel) items opens enough
    rw [loop, objectLoop, skipWhitespace_to margin blank (Reads.getElem?_of_drop quote) (by decide),
      parseString_bad round bad quote]
    rfl
  | @member init valid spaced read label named before rest blank next ih =>
    obtain ⟨fuel, rfl⟩ := Nat.exists_eq_add_one_of_ne_zero (Nat.ne_zero_of_lt enough)
    rw [← List.cons_append] at shape
    obtain ⟨items, later⟩ := Reads.of_drop shape
    obtain ⟨name, after⟩ := Reads.of_drop later
    obtain ⟨margin, value⟩ := Reads.of_drop after
    obtain ⟨c, more, first, starts⟩ := chokes_starts round next
    have opens : Opens round (· = 0x22) (label.whole ++ (before ++ rest)) :=
      ⟨label.before, 0x22, label.inside ++ ([0x22] ++ (label.after ++ ([0x3A] ++ (before ++ rest)))),
        by simp [Json.Label.whole, Json.quoted], named.1, rfl⟩
    rw [← later] at opens
    obtain ⟨room, loop⟩ := parseValue_brace round init valid spaced read
      (fun m member => understood_of_value round (read m member) fuel) items opens enough
    have onward := margin.le
    have bound := items.lt_length
    have past := items.cons.2.le
    have further := name.le
    have here := Reads.getElem?_of_drop (value.trans first)
    have failed : parseValue round s fuel _ = .error .numberFormat := ih value (by omega)
    rw [← parseValue_margin round margin blank here starts.not_space] at failed
    rw [loop, objectLoop_label round named name room (Json.entries init) failed]

end RealtimePlatform.Proof.JsonCompleteness
