import RealtimePlatform.Sdk.MinimalJson

namespace RealtimePlatform.Proof.JsonTokens
open Library Sdk.MinimalJson

variable {δ : Type} (round : Bool → ℚ → δ)

def lexicon : Json.Lexicon δ where
  space := isWhitespace
  raw u := u ≠ 0x22 ∧ u ≠ 0x5C
  hex four := (toInt16 four).map toChar
  number token x := (∀ u ∈ token, inNumber u = true) ∧ toDouble round token = some x

theorem digit16_eq : ∀ n < 0x67, (Json.hexDigit (UInt16.ofNat n)).isSome →
    digit16 (UInt16.ofNat n) = Json.hexDigit (UInt16.ofNat n) := by
  decide +kernel

theorem digit16_of_hexDigit {u : UInt16} {d : Nat} (digit : Json.hexDigit u = some d) : digit16 u = some d := by
  have small : u.toNat < 0x67 := by
    simp only [Json.hexDigit, UInt16.le_iff_toNat_le] at digit
    by_contra large
    simp at digit
    split_ifs at digit <;> omega
  have same := digit16_eq u.toNat small (by simp [digit])
  simpa [digit] using same

theorem mapM_digit16 {text : Utf16} {ds : List Nat} (read : text.mapM Json.hexDigit = some ds) :
    text.mapM digit16 = some ds := by
  induction text generalizing ds with
  | nil => exact read
  | cons u rest ih =>
    simp only [List.mapM_cons, Option.bind_eq_bind, Option.bind_eq_some_iff, Option.pure_def] at read ⊢
    obtain ⟨d, first, more, later, whole⟩ := read
    exact ⟨d, digit16_of_hexDigit first, more, ih later, whole⟩

theorem toInt16_of_hexDigits {text : Utf16} {ds : List Nat} (nonempty : text ≠ [])
    (read : text.mapM Json.hexDigit = some ds) :
    toInt16 text = some ((ds.foldl (fun value d => value * 16 + d) 0 : ℕ) : ℤ) := by
  have unsigned : natural16 text = some (ds.foldl (fun value d => value * 16 + d) 0) := by
    rw [natural16, if_neg nonempty, mapM_digit16 read]
    rfl
  cases text with
  | nil => exact absurd rfl nonempty
  | cons u rest =>
    have digit : (Json.hexDigit u).isSome := by
      simp only [List.mapM_cons, Option.bind_eq_bind, Option.bind_eq_some_iff] at read
      obtain ⟨d, first, _⟩ := read
      simp [first]
    have sign : ∀ c : UInt16, Json.hexDigit c = none → u ≠ c := by
      rintro c other rfl
      simp [other] at digit
    unfold toInt16
    split
    · rename_i minus
      exact absurd (List.cons.inj minus).1 (sign _ (by decide))
    · rename_i plus
      exact absurd (List.cons.inj plus).1 (sign _ (by decide))
    · rw [unsigned]
      rfl

theorem toChar_natCast (n : Nat) : toChar n = UInt16.ofNat n := by
  have low : ((n : ℤ) % 0x10000).toNat = n % 0x10000 := by omega
  rw [toChar, low]
  exact UInt16.ofNat_mod_size

theorem single_encodeChar {c : Char} (ascii : c.toNat < 0x80) :
    Utf16.encodeChar c = [UInt16.ofNat c.toNat] ∧ Utf16.single (UInt16.ofNat c.toNat) = c := by
  have unit : (UInt16.ofNat c.toNat).toNat = c.toNat := by
    rw [UInt16.toNat_ofNat']
    omega
  constructor
  · rw [Utf16.encodeChar, if_pos (by omega)]
  · have high : Utf16.isHigh (UInt16.ofNat c.toNat) = false := by simp [Utf16.isHigh, unit]; omega
    have low : Utf16.isLow (UInt16.ofNat c.toNat) = false := by simp [Utf16.isLow, unit]; omega
    rw [Utf16.single, high, low, unit]
    exact Char.ofNat_toNat c

theorem map_single_flatMap {text : List Char} (ascii : ∀ c ∈ text, c.toNat < 0x80) :
    (text.flatMap Utf16.encodeChar).map Utf16.single = text := by
  induction text with
  | nil => rfl
  | cons c rest ih =>
    have first := single_encodeChar (ascii c List.mem_cons_self)
    rw [List.flatMap_cons, List.map_append, ih fun d member => ascii d (List.mem_cons_of_mem c member), first.1,
      List.map_singleton, first.2]
    rfl

def inLiteral (c : Char) : Bool := c.isDigit || c ∈ ['-', '+', '.', 'e', 'E']

theorem inNumber_of_inLiteral : ∀ n < 0x80, inLiteral (Char.ofNat n) = true → inNumber (UInt16.ofNat n) = true := by
  decide +kernel

theorem ascii_of_inLiteral {c : Char} (legal : inLiteral c = true) : c.toNat < 0x80 := by
  simp only [inLiteral, Bool.or_eq_true, decide_eq_true_eq, List.mem_cons, List.not_mem_nil, or_false] at legal
  obtain digit | rfl | rfl | rfl | rfl | rfl := legal
  · have range : 48 ≤ c.toNat ∧ c.toNat ≤ 57 := by
      simpa [Char.isDigit, UInt32.le_iff_toNat_le] using digit
    omega
  all_goals decide

theorem inLiteral_of_digits {text : List Char} (valid : Json.Digits text) {c : Char} (member : c ∈ text) :
    inLiteral c = true := by
  simp [inLiteral, valid.2 c member]

theorem inLiteral_exponent (e : Json.Exponent) {c : Char} (member : c ∈ e.text) : inLiteral c = true := by
  simp only [Json.Exponent.text, List.mem_cons, List.mem_append] at member
  obtain rfl | sign | digit := member
  · cases e.capital <;> decide
  · cases shape : e.sign with
    | none => simp [shape] at sign
    | some minus => cases minus <;> simp [shape] at sign <;> subst sign <;> decide
  · exact inLiteral_of_digits e.valid digit

theorem inLiteral_unsigned (l : Json.Literal) {c : Char} (member : c ∈ l.unsigned) : inLiteral c = true := by
  simp only [Json.Literal.unsigned, List.mem_append] at member
  obtain whole | fraction | exponent := member
  · exact inLiteral_of_digits l.whole_valid whole
  · cases shape : l.fraction with
    | none => simp [shape] at fraction
    | some digits =>
      simp only [shape, Option.elim_some, List.mem_cons] at fraction
      obtain rfl | digit := fraction
      · decide
      · exact inLiteral_of_digits (l.fraction_valid digits shape) digit
  · cases shape : l.exponent with
    | none => simp [shape] at exponent
    | some e => exact inLiteral_exponent e (by simpa [shape] using exponent)

theorem inLiteral_text (l : Json.Literal) {c : Char} (member : c ∈ l.text) : inLiteral c = true := by
  rw [Json.Literal.text, List.mem_append] at member
  obtain sign | rest := member
  · cases negative : l.minus <;> simp [negative] at sign
    subst sign
    decide
  · exact inLiteral_unsigned l rest

theorem exponentPart_text (e : Json.Exponent) : Numeral.exponentPart e.text = some e.value := by
  have read := Numeral.digits_of_isDigit e.valid.1 e.valid.2
  have marked : (if e.capital then 'E' else 'e') = 'e' ∨ (if e.capital then 'E' else 'e') = 'E' := by
    cases e.capital <;> decide
  cases shape : e.sign with
  | some minus =>
    cases minus <;>
      simp [Json.Exponent.text, Json.Exponent.value, Numeral.exponentPart, shape, read]
  | none =>
    have unsigned : ∀ c rest, e.digits = c :: rest → c.isDigit = true :=
      fun c rest first => e.valid.2 c (first ▸ List.mem_cons_self)
    simp only [Json.Exponent.text, Numeral.exponentPart, shape, Option.elim_none, List.nil_append, if_pos marked]
    split
    · rename_i first
      exact absurd (unsigned _ _ first) (by decide)
    · rename_i first
      exact absurd (unsigned _ _ first) (by decide)
    · simp [Json.Exponent.value, shape, read]

theorem takeWhile_digits {digits : List Char} (rest : List Char) (valid : Json.Digits digits)
    (stop : ∀ c ∈ rest.head?, c.isDigit = false) :
    (digits ++ rest).takeWhile Char.isDigit = digits ∧ (digits ++ rest).dropWhile Char.isDigit = rest := by
  rw [List.takeWhile_append_of_pos valid.2, List.dropWhile_append_of_pos valid.2]
  cases rest with
  | nil => simp
  | cons c rest => simp [stop c rfl]

theorem head_exponent (exponent : Option Json.Exponent) :
    ∀ c ∈ (exponent.elim [] Json.Exponent.text).head?, c = 'e' ∨ c = 'E' := by
  intro c first
  cases exponent with
  | none => cases first
  | some e =>
    simp only [Option.elim_some, Json.Exponent.text, List.head?_cons, Option.mem_def, Option.some.injEq] at first
    subst first
    cases e.capital <;> decide

theorem exponentPart_elim (exponent : Option Json.Exponent) :
    Numeral.exponentPart (exponent.elim [] Json.Exponent.text) = some (exponent.elim 0 Json.Exponent.value) := by
  cases exponent with
  | none => rfl
  | some e => exact exponentPart_text e

theorem strUnsignedDecimalLiteral_unsigned (l : Json.Literal) :
    Numeral.strUnsignedDecimalLiteral l.unsigned = some l.magnitude := by
  have stop : ∀ c ∈ (l.exponent.elim [] Json.Exponent.text).head?, c.isDigit = false := by
    intro c first
    obtain rfl | rfl := head_exponent l.exponent c first <;> decide
  have point : (l.exponent.elim [] Json.Exponent.text).head? ≠ some '.' := by
    intro first
    exact absurd (head_exponent l.exponent '.' first) (by decide)
  cases shape : l.fraction with
  | none =>
    have cut := takeWhile_digits _ l.whole_valid stop
    have read := Numeral.digits_of_isDigit l.whole_valid.1 l.whole_valid.2
    simp [Numeral.strUnsignedDecimalLiteral, Json.Literal.unsigned, Json.Literal.magnitude, shape, cut, point, read,
      exponentPart_elim]
  | some digits =>
    have valid := l.fraction_valid digits shape
    have cut := takeWhile_digits ('.' :: (digits ++ l.exponent.elim [] Json.Exponent.text)) l.whole_valid
      (by simp)
    have inner := takeWhile_digits _ valid stop
    have read : Numeral.digits 10 (l.whole ++ digits) = some (Nat.ofDigitChars 10 (l.whole ++ digits) 0) := by
      refine Numeral.digits_of_isDigit (by simp [l.whole_valid.1]) fun c member => ?_
      obtain whole | fraction := List.mem_append.mp member
      · exact l.whole_valid.2 c whole
      · exact valid.2 c fraction
    simp [Numeral.strUnsignedDecimalLiteral, Json.Literal.unsigned, Json.Literal.magnitude, shape, cut, inner, read,
      exponentPart_elim]

theorem toDouble_literal (l : Json.Literal) :
    toDouble round (l.text.flatMap Utf16.encodeChar) = some (round l.minus l.magnitude) := by
  have chars := map_single_flatMap fun c member => ascii_of_inLiteral (inLiteral_text l (c := c) member)
  have first : ∀ c : Char, c.isDigit = false → l.unsigned.head? ≠ some c := by
    intro c other found
    cases digits : l.whole with
    | nil => exact l.whole_valid.1 digits
    | cons d rest =>
      have digit := l.whole_valid.2 d (digits ▸ List.mem_cons_self)
      simp only [Json.Literal.unsigned, digits, List.cons_append, List.head?_cons, Option.some.injEq] at found
      rw [found, other] at digit
      cases digit
  rw [toDouble, chars]
  cases negative : l.minus with
  | true => simp [Json.Literal.text, negative, strUnsignedDecimalLiteral_unsigned]
  | false =>
    simp [Json.Literal.text, negative, strUnsignedDecimalLiteral_unsigned, first '-' (by decide),
      first '+' (by decide)]

theorem rfc8259_within : (Json.rfc8259 round).Within (lexicon round) where
  space u blank := by
    simp only [Json.rfc8259, decide_eq_true_eq] at blank
    change isWhitespace u = true
    obtain rfl | rfl | rfl | rfl := blank <;> decide
  raw u plain := by
    simp only [Json.rfc8259, decide_eq_true_eq] at plain
    simpa [lexicon] using plain.2
  hex four u length named := by
    simp only [Json.rfc8259, Option.map_eq_some_iff] at named
    obtain ⟨ds, read, rfl⟩ := named
    have nonempty : four ≠ [] := by
      rintro rfl
      cases length
    change (toInt16 four).map toChar = _
    rw [toInt16_of_hexDigits nonempty read, Option.map_some, toChar_natCast]
  number text x read := by
    obtain ⟨l, rfl, rfl⟩ := read
    refine ⟨fun u member => ?_, toDouble_literal round l⟩
    obtain ⟨c, inside, encoded⟩ := List.mem_flatMap.mp member
    have legal := inLiteral_text l inside
    have small := ascii_of_inLiteral legal
    rw [(single_encodeChar small).1, List.mem_singleton] at encoded
    rw [encoded]
    exact inNumber_of_inLiteral c.toNat small (by rwa [Char.ofNat_toNat])

end RealtimePlatform.Proof.JsonTokens
