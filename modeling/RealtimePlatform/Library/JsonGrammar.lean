import RealtimePlatform.Library.Utf16
import RealtimePlatform.Library.Numeral

/-!
# The grammar of JSON

A text, as UTF-16 units, and the value it denotes. What white space is, which units a string may hold as they
are, which units may name another after `\u` and which texts are numbers is a parameter, the lexicon: a reader
that is laxer than the standard in these only follows the same grammar with a larger lexicon.
-/

namespace RealtimePlatform.Library

/-- A value whose numbers are of the type `δ`. -/
inductive Json (δ : Type*) where
  | null
  | bool (value : Bool)
  | number (value : δ)
  | string (value : Utf16)
  | array (items : List (Json δ))
  | object (entries : List (Utf16 × Json δ))

namespace Json

variable {δ : Type*}

def put (name : Utf16) (value : Json δ) : List (Utf16 × Json δ) → List (Utf16 × Json δ)
  | [] => [(name, value)]
  | entry :: rest => if entry.1 = name then (name, value) :: rest else entry :: put name value rest

structure Lexicon (δ : Type*) where
  space : UInt16 → Bool
  raw : UInt16 → Bool
  hex : Utf16 → Option UInt16
  number : Utf16 → δ → Prop

namespace Lexicon

structure Within (small large : Lexicon δ) : Prop where
  space : ∀ u, small.space u = true → large.space u = true
  raw : ∀ u, small.raw u = true → large.raw u = true
  hex : ∀ four u, four.length = 4 → small.hex four = some u → large.hex four = some u
  number : ∀ text x, small.number text x → large.number text x

def Spaces (lexicon : Lexicon δ) (text : Utf16) : Prop := ∀ u ∈ text, lexicon.space u = true

end Lexicon

/-- The unit that a backslash before `u` stands for. -/
def simpleEscape (u : UInt16) : Option UInt16 :=
  if u = 0x22 then some 0x22
  else if u = 0x5C then some 0x5C
  else if u = 0x2F then some 0x2F
  else if u = 0x6E then some 0x0A
  else if u = 0x72 then some 0x0D
  else if u = 0x74 then some 0x09
  else if u = 0x62 then some 0x08
  else if u = 0x66 then some 0x0C
  else none

/-- The inside of a string, and the string it denotes. -/
inductive Chars (lexicon : Lexicon δ) : Utf16 → Utf16 → Prop
  | nil : Chars lexicon [] []
  | raw {u : UInt16} {text value : Utf16} (plain : lexicon.raw u = true) (more : Chars lexicon text value) :
      Chars lexicon (u :: text) (u :: value)
  | escape {u meant : UInt16} {text value : Utf16} (escaped : simpleEscape u = some meant)
      (more : Chars lexicon text value) : Chars lexicon (0x5C :: u :: text) (meant :: value)
  | unicode {four : Utf16} {meant : UInt16} {text value : Utf16} (length : four.length = 4)
      (named : lexicon.hex four = some meant) (more : Chars lexicon text value) :
      Chars lexicon (0x5C :: 0x75 :: (four ++ text)) (meant :: value)

def quoted (text : Utf16) : Utf16 := 0x22 :: (text ++ [0x22])

structure Element (δ : Type*) where
  before : Utf16
  text : Utf16
  value : Json δ
  after : Utf16

namespace Element

def whole (e : Element δ) : Utf16 := e.before ++ (e.text ++ e.after)

def Spaced (lexicon : Lexicon δ) (e : Element δ) : Prop := lexicon.Spaces e.before ∧ lexicon.Spaces e.after

end Element

structure Label where
  before : Utf16
  inside : Utf16
  name : Utf16
  after : Utf16

namespace Label

def whole (l : Label) : Utf16 := l.before ++ (quoted l.inside ++ (l.after ++ [0x3A]))

def Valid (lexicon : Lexicon δ) (l : Label) : Prop :=
  lexicon.Spaces l.before ∧ Chars lexicon l.inside l.name ∧ lexicon.Spaces l.after

end Label

structure Member (δ : Type*) where
  label : Label
  element : Element δ

def Member.whole (m : Member δ) : Utf16 := m.label.whole ++ m.element.whole

/-- The map that the members build up. -/
def entries (members : List (Member δ)) : List (Utf16 × Json δ) :=
  members.foldl (fun entries m => put m.label.name m.element.value entries) []

theorem put_of_fresh {name : Utf16} (value : Json δ) {entries : List (Utf16 × Json δ)}
    (fresh : name ∉ entries.map Prod.fst) : put name value entries = entries ++ [(name, value)] := by
  induction entries with
  | nil => rfl
  | cons entry rest ih =>
    rw [List.map_cons, List.mem_cons, not_or] at fresh
    rw [put, if_neg (Ne.symm fresh.1), ih fresh.2, List.cons_append]

theorem entries_of_nodup (members : List (Member δ)) (distinct : (members.map (·.label.name)).Nodup) :
    entries members = members.map fun m => (m.label.name, m.element.value) := by
  induction members using List.reverseRecOn with
  | nil => rfl
  | append_singleton members m ih =>
    rw [List.map_append, List.nodup_append] at distinct
    have before := ih distinct.1
    have fresh : m.label.name ∉ (entries members).map Prod.fst := by
      rw [before, List.map_map]
      intro member
      exact distinct.2.2 _ member _ (List.mem_singleton.mpr rfl) rfl
    rw [entries, List.foldl_concat, ← entries, put_of_fresh _ fresh, before, List.map_append]
    rfl

def separated (wholes : List Utf16) : Utf16 := wholes.flatMap (· ++ [0x2C])

theorem separated_append (init : List Utf16) (last : Utf16) :
    separated init ++ last = List.intercalate [0x2C] (init ++ [last]) := by
  induction init with
  | nil => rw [List.nil_append, List.intercalate_singleton]; rfl
  | cons first rest ih =>
    rw [List.cons_append, List.intercalate_cons_of_ne_nil (by simp), ← ih]
    simp [separated]

/-- The text of a value and the value. A list that is not empty has a last item, and a comma after each of the
others. -/
inductive Value (lexicon : Lexicon δ) : Utf16 → Json δ → Prop
  | null : Value lexicon (Utf16.ofString "null") .null
  | true : Value lexicon (Utf16.ofString "true") (.bool true)
  | false : Value lexicon (Utf16.ofString "false") (.bool false)
  | number {text : Utf16} {x : δ} (read : lexicon.number text x) : Value lexicon text (.number x)
  | string {inside value : Utf16} (read : Chars lexicon inside value) : Value lexicon (quoted inside) (.string value)
  | emptyArray {spaces : Utf16} (blank : lexicon.Spaces spaces) : Value lexicon (0x5B :: (spaces ++ [0x5D])) (.array [])
  | array (init : List (Element δ)) (last : Element δ) (spaced : ∀ e ∈ init ++ [last], e.Spaced lexicon)
      (read : ∀ e ∈ init ++ [last], Value lexicon e.text e.value) :
      Value lexicon (0x5B :: (separated (init.map Element.whole) ++ (last.whole ++ [0x5D])))
        (.array ((init ++ [last]).map Element.value))
  | emptyObject {spaces : Utf16} (blank : lexicon.Spaces spaces) :
      Value lexicon (0x7B :: (spaces ++ [0x7D])) (.object [])
  | object (init : List (Member δ)) (last : Member δ) (labelled : ∀ m ∈ init ++ [last], m.label.Valid lexicon)
      (spaced : ∀ m ∈ init ++ [last], m.element.Spaced lexicon)
      (read : ∀ m ∈ init ++ [last], Value lexicon m.element.text m.element.value) :
      Value lexicon (0x7B :: (separated (init.map Member.whole) ++ (last.whole ++ [0x7D])))
        (.object (entries (init ++ [last])))

theorem Value.objectOf {lexicon : Lexicon δ} {members : List (Member δ)} (nonempty : members ≠ [])
    (labelled : ∀ m ∈ members, m.label.Valid lexicon) (spaced : ∀ m ∈ members, m.element.Spaced lexicon)
    (read : ∀ m ∈ members, Value lexicon m.element.text m.element.value) :
    Value lexicon (0x7B :: (List.intercalate [0x2C] (members.map Member.whole) ++ [0x7D]))
      (.object (entries members)) := by
  obtain rfl | ⟨init, last, rfl⟩ := List.eq_nil_or_concat members
  · exact absurd rfl nonempty
  · rw [List.concat_eq_append] at *
    have value := Value.object init last labelled spaced read
    rw [← List.append_assoc, separated_append] at value
    rwa [List.map_append]

/-- A whole text: one value, with white space around it. -/
def Text (lexicon : Lexicon δ) (text : Utf16) (value : Json δ) : Prop :=
  ∃ before inner after, text = before ++ (inner ++ after) ∧ lexicon.Spaces before ∧ lexicon.Spaces after ∧
    Value lexicon inner value

theorem Chars.append {lexicon : Lexicon δ} {text value more rest : Utf16} (read : Chars lexicon text value)
    (later : Chars lexicon more rest) : Chars lexicon (text ++ more) (value ++ rest) := by
  induction read with
  | nil => exact later
  | raw plain _ ih => exact .raw plain ih
  | escape escaped _ ih => exact .escape escaped ih
  | unicode length named _ ih =>
    rw [List.cons_append, List.cons_append, List.append_assoc]
    exact .unicode length named ih

theorem Chars.length_le {lexicon : Lexicon δ} {text value : Utf16} (read : Chars lexicon text value) :
    value.length ≤ text.length := by
  induction read with
  | nil => exact Nat.le_refl 0
  | raw _ _ ih => simpa using ih
  | escape _ _ ih =>
    simp only [List.length_cons]
    omega
  | unicode _ _ _ ih =>
    simp only [List.length_cons, List.length_append]
    omega

theorem length_le_separated (wholes : List Utf16) : wholes.length ≤ (separated wholes).length := by
  induction wholes with
  | nil => exact Nat.le_refl 0
  | cons whole rest ih =>
    simp only [separated, List.flatMap_cons, List.length_append, List.length_cons] at *
    omega

section Within

variable {small large : Lexicon δ}

theorem Lexicon.Spaces.mono (within : small.Within large) {text : Utf16} (blank : small.Spaces text) :
    large.Spaces text :=
  fun u member => within.space u (blank u member)

theorem Chars.mono (within : small.Within large) {text value : Utf16} (read : Chars small text value) :
    Chars large text value := by
  induction read with
  | nil => exact .nil
  | raw plain _ ih => exact .raw (within.raw _ plain) ih
  | escape escaped _ ih => exact .escape escaped ih
  | unicode length named _ ih => exact .unicode length (within.hex _ _ length named) ih

theorem Element.Spaced.mono (within : small.Within large) {e : Element δ} (spaced : e.Spaced small) :
    e.Spaced large :=
  ⟨spaced.1.mono within, spaced.2.mono within⟩

theorem Label.Valid.mono (within : small.Within large) {l : Label} (valid : l.Valid small) : l.Valid large :=
  ⟨valid.1.mono within, valid.2.1.mono within, valid.2.2.mono within⟩

theorem Value.mono (within : small.Within large) {text : Utf16} {value : Json δ} (read : Value small text value) :
    Value large text value := by
  induction read with
  | null => exact .null
  | true => exact .true
  | false => exact .false
  | number read => exact .number (within.number _ _ read)
  | string read => exact .string (read.mono within)
  | emptyArray blank => exact .emptyArray (blank.mono within)
  | array init last spaced _ ih => exact .array init last (fun e member => (spaced e member).mono within) ih
  | emptyObject blank => exact .emptyObject (blank.mono within)
  | object init last labelled spaced _ ih =>
    exact .object init last (fun m member => (labelled m member).mono within)
      (fun m member => (spaced m member).mono within) ih

end Within

def Digits (text : List Char) : Prop := text ≠ [] ∧ ∀ c ∈ text, c.isDigit = true

structure Exponent where
  capital : Bool
  sign : Option Bool
  digits : List Char
  valid : Digits digits

namespace Exponent

def text (e : Exponent) : List Char :=
  (if e.capital then 'E' else 'e') :: ((e.sign.elim [] fun minus => [if minus then '-' else '+']) ++ e.digits)

def value (e : Exponent) : ℤ :=
  if e.sign = some true then -(Nat.ofDigitChars 10 e.digits 0 : ℤ) else Nat.ofDigitChars 10 e.digits 0

end Exponent

structure Literal where
  minus : Bool
  whole : List Char
  fraction : Option (List Char)
  exponent : Option Exponent
  whole_valid : Digits whole
  leading : whole.head? = some '0' → whole = ['0']
  fraction_valid : ∀ digits, fraction = some digits → Digits digits

namespace Literal

def unsigned (l : Literal) : List Char :=
  l.whole ++ ((l.fraction.elim [] ('.' :: ·)) ++ l.exponent.elim [] Exponent.text)

def text (l : Literal) : List Char := (if l.minus then ['-'] else []) ++ l.unsigned

def magnitude (l : Literal) : ℚ :=
  Nat.ofDigitChars 10 (l.whole ++ l.fraction.getD []) 0 *
    10 ^ (l.exponent.elim 0 Exponent.value - (l.fraction.getD []).length)

end Literal

def hexDigit (u : UInt16) : Option Nat :=
  if 0x30 ≤ u ∧ u ≤ 0x39 then some (u.toNat - 0x30)
  else if 0x61 ≤ u ∧ u ≤ 0x66 then some (u.toNat - 0x61 + 10)
  else if 0x41 ≤ u ∧ u ≤ 0x46 then some (u.toNat - 0x41 + 10)
  else none

/-- The lexicon of RFC 8259; a number denotes what `round` makes of its sign and its magnitude. -/
def rfc8259 (round : Bool → ℚ → δ) : Lexicon δ where
  space u := u = 0x20 ∨ u = 0x09 ∨ u = 0x0A ∨ u = 0x0D
  raw u := 0x20 ≤ u ∧ u ≠ 0x22 ∧ u ≠ 0x5C
  hex four := (four.mapM hexDigit).map fun digits => UInt16.ofNat (digits.foldl (fun value d => value * 16 + d) 0)
  number text x := ∃ l : Literal, text = l.text.flatMap Utf16.encodeChar ∧ x = round l.minus l.magnitude

end Json
end RealtimePlatform.Library
