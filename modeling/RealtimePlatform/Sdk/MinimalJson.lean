import RealtimePlatform.Library.JsonGrammar
import RealtimePlatform.Library.Table

/-!
# The JSON reader of the Android client

`MinimalJson.parse` of `Json.kt`: a recursive descent over the units of a text, with the classes of characters
and the number conversions of Kotlin's standard library on the JVM.
-/

namespace RealtimePlatform.Sdk.MinimalJson
open Library

def whitespace : List UInt16 :=
  [0x09, 0x0A, 0x0B, 0x0C, 0x0D, 0x1C, 0x1D, 0x1E, 0x1F, 0x20, 0xA0, 0x1680, 0x2000, 0x2001, 0x2002, 0x2003,
    0x2004, 0x2005, 0x2006, 0x2007, 0x2008, 0x2009, 0x200A, 0x2028, 0x2029, 0x202F, 0x205F, 0x3000]

def isWhitespace (u : UInt16) : Bool := whitespace.contains u

def zeros : List Nat :=
  [0x0030, 0x0660, 0x06F0, 0x07C0, 0x0966, 0x09E6, 0x0A66, 0x0AE6, 0x0B66, 0x0BE6, 0x0C66, 0x0CE6, 0x0D66, 0x0DE6,
    0x0E50, 0x0ED0, 0x0F20, 0x1040, 0x1090, 0x17E0, 0x1810, 0x1946, 0x19D0, 0x1A80, 0x1A90, 0x1B50, 0x1BB0, 0x1C40,
    0x1C50, 0xA620, 0xA8D0, 0xA900, 0xA9D0, 0xA9F0, 0xAA50, 0xABF0, 0xFF10]

def decimalDigit (u : UInt16) : Option Nat :=
  (zeros.find? fun first => first ≤ u.toNat && u.toNat < first + 10).map (u.toNat - ·)

def isDigit (u : UInt16) : Bool := (decimalDigit u).isSome

/-- `Character.digit(u, 16)`: a letter may also be a fullwidth one. -/
def digit16 (u : UInt16) : Option Nat :=
  match decimalDigit u with
  | some value => some value
  | none =>
    ([0x41, 0x61, 0xFF21, 0xFF41].find? fun letter => letter ≤ u.toNat && u.toNat < letter + 6).map
      (10 + (u.toNat - ·))

def natural16 (digits : Utf16) : Option Nat :=
  if digits = [] then none
  else (digits.mapM digit16).map (List.foldl (fun value d => value * 16 + d) 0)

/-- `text.toInt(16)`. The texts are of four units, so no value is out of range. -/
def toInt16 (text : Utf16) : Option ℤ :=
  match text with
  | 0x2D :: digits => (natural16 digits).map fun n : Nat => -(n : ℤ)
  | 0x2B :: digits => (natural16 digits).map fun n : Nat => (n : ℤ)
  | digits => (natural16 digits).map fun n : Nat => (n : ℤ)

/-- `Int.toChar()` keeps the low sixteen bits. -/
def toChar (n : ℤ) : UInt16 := UInt16.ofNat (n % 0x10000).toNat

/-- `code.toString(16)` -/
def toString16 (code : Nat) : Utf16 := (Nat.toDigits 16 code).map fun c => UInt16.ofNat c.toNat

def padStart (length : Nat) (padChar : UInt16) (text : Utf16) : Utf16 := text.leftpad length padChar

/-- What `encodeString` appends for a unit. -/
def encodeUnit (c : UInt16) : Utf16 :=
  if c = 0x22 then [0x5C, 0x22]
  else if c = 0x5C then [0x5C, 0x5C]
  else if c = 0x0A then [0x5C, 0x6E]
  else if c = 0x0D then [0x5C, 0x72]
  else if c = 0x09 then [0x5C, 0x74]
  else if c.toNat < 0x20 then [0x5C, 0x75] ++ padStart 4 0x30 (toString16 c.toNat)
  else [c]

def encodeString (s : Utf16) : Utf16 := 0x22 :: (s.flatMap encodeUnit ++ [0x22])

/-- `joinToString(prefix = "\x7b", postfix = "\x7d")`, with the default separator. -/
def joinToString (parts : List Utf16) : Utf16 := 0x7B :: (List.intercalate [0x2C, 0x20] parts ++ [0x7D])

/-- The values that are supported: a `String`, or a `Map<String, String>` with its entries in their order. -/
inductive FieldValue where
  | string (value : Utf16)
  | map (value : Table Utf16 Utf16)

def encodeValue : FieldValue → Utf16
  | .string value => encodeString value
  | .map value => joinToString (value.entries.map fun entry => encodeString entry.1 ++ (0x3A :: encodeString entry.2))

def encodeObject (fields : List (Utf16 × FieldValue)) : Utf16 :=
  joinToString (fields.map fun field => encodeString field.1 ++ (0x3A :: encodeValue field.2))

variable {δ : Type} (round : Bool → ℚ → δ)

/-- `text.toDouble()`. No letter but `e` and `E` gets here, so of what the conversion reads only decimal literals
matter; `round` gives the double for a sign and a magnitude. -/
def toDouble (text : Utf16) : Option δ :=
  let literal := text.map Utf16.single
  let negative := literal.head? = some '-'
  let unsigned := if negative ∨ literal.head? = some '+' then literal.tail else literal
  (Numeral.strUnsignedDecimalLiteral unsigned).map (round negative)

/-- Why an `IllegalStateException` is thrown. -/
inductive Reason where
  | expected (c : UInt16) (offset : Nat)
  | endOfText
  | endInObject
  | commaOrBrace (offset : Nat)
  | endInArray
  | commaOrBracket (offset : Nat)
  | unterminatedString
  | incompleteEscape
  | incompleteUnicode
  | unknownEscape (c : UInt16)
  | unexpectedValue (offset : Nat)
  deriving DecidableEq

def Reason.message : Reason → String
  | expected c offset => "MinimalJson : « " ++ (Utf16.single c).toString ++ s!" » attendu à l\x27offset {offset}"
  | endOfText => "MinimalJson : fin de texte inattendue"
  | endInObject => "MinimalJson : fin de texte inattendue dans un objet"
  | commaOrBrace offset => s!"MinimalJson : « , » ou « \x7d » attendu à l\x27offset {offset}"
  | endInArray => "MinimalJson : fin de texte inattendue dans un tableau"
  | commaOrBracket offset => s!"MinimalJson : « , » ou « ] » attendu à l\x27offset {offset}"
  | unterminatedString => "MinimalJson : chaîne non terminée"
  | incompleteEscape => "MinimalJson : échappement incomplet"
  | incompleteUnicode => "MinimalJson : échappement \\u incomplet"
  | unknownEscape c => "MinimalJson : échappement inconnu \\" ++ (Utf16.single c).toString
  | unexpectedValue offset => s!"MinimalJson : valeur inattendue à l\x27offset {offset}"

/-- What a call throws. `outOfFuel` is the model's own: a recursion or a loop that was not given enough. -/
inductive Failure where
  | illegalState (reason : Reason)
  | numberFormat
  | indexOutOfBounds
  | outOfFuel
  deriving DecidableEq

def check (condition : Prop) [Decidable condition] (reason : Reason) : Except Failure Unit :=
  if condition then .ok () else .error (.illegalState reason)

section Parser

variable (s : Utf16)

/-- `s[i]` -/
def charAt (i : Nat) : Except Failure UInt16 :=
  match s[i]? with
  | some u => .ok u
  | none => .error .indexOutOfBounds

/-- `s.substring(start, stop)` -/
def substring (start stop : Nat) : Except Failure Utf16 :=
  if start ≤ stop ∧ stop ≤ s.length then .ok ((s.take stop).drop start) else .error .indexOutOfBounds

/-- `s.startsWith(word, i)` -/
def startsWith (word : Utf16) (i : Nat) : Bool := word.isPrefixOf (s.drop i)

/-- `while (i < s.length && holds(s[i])) i++` -/
def skipWhile (holds : UInt16 → Bool) (i : Nat) : Nat := i + ((s.drop i).takeWhile holds).length

def skipWhitespace (i : Nat) : Nat := skipWhile s isWhitespace i

def expect (c : UInt16) (i : Nat) : Except Failure Nat := do
  check (s[i]? = some c) (.expected c i)
  return i + 1

/-- The loop of `parseString`, with what `sb` holds. A result comes with the offset `i` after it. -/
def stringLoop : Nat → Utf16 → Nat → Except Failure (Utf16 × Nat)
  | 0, _, _ => .error .outOfFuel
  | fuel + 1, sb, i => do
    check (i < s.length) .unterminatedString
    let c ← charAt s i
    if c = 0x22 then return (sb, i + 1)
    else if c = 0x5C then
      let i := i + 1
      check (i < s.length) .incompleteEscape
      let escape ← charAt s i
      match Json.simpleEscape escape with
      | some meant => stringLoop fuel (sb ++ [meant]) (i + 1)
      | none =>
        if escape = 0x75 then
          check (i + 4 < s.length) .incompleteUnicode
          let four ← substring s (i + 1) (i + 5)
          match toInt16 four with
          | some n => stringLoop fuel (sb ++ [toChar n]) (i + 4 + 1)
          | none => .error .numberFormat
        else .error (.illegalState (.unknownEscape escape))
    else stringLoop fuel (sb ++ [c]) (i + 1)

def parseString (i : Nat) : Except Failure (Utf16 × Nat) := do
  let i ← expect s 0x22 i
  stringLoop s (s.length + 1) [] i

def inNumber (u : UInt16) : Bool := isDigit u || u ∈ [0x2D, 0x2B, 0x2E, 0x65, 0x45]

def parseNumber (i : Nat) : Except Failure (δ × Nat) := do
  let start := i
  let i := skipWhile s inNumber i
  check (start < i) (.unexpectedValue i)
  let token ← substring s start i
  match toDouble round token with
  | some x => .ok (x, i)
  | none => .error .numberFormat

section Nested

variable (parseValue : Nat → Except Failure (Json δ × Nat))

/-- The loop of `parseObject`, from the key. -/
def objectLoop : Nat → List (Utf16 × Json δ) → Nat → Except Failure (Json δ × Nat)
  | 0, _, _ => .error .outOfFuel
  | fuel + 1, map, i => do
    let i := skipWhitespace s i
    let (key, i) ← parseString s i
    let i := skipWhitespace s i
    let i ← expect s 0x3A i
    let (value, i) ← parseValue i
    let map := Json.put key value map
    let i := skipWhitespace s i
    check (i < s.length) .endInObject
    let c ← charAt s i
    if c = 0x2C then objectLoop fuel map (i + 1)
    else if c = 0x7D then return (.object map, i + 1)
    else .error (.illegalState (.commaOrBrace i))

def parseObject (fuel : Nat) (i : Nat) : Except Failure (Json δ × Nat) := do
  let i ← expect s 0x7B i
  let i := skipWhitespace s i
  if s[i]? = some 0x7D then return (.object [], i + 1)
  else objectLoop s parseValue fuel [] i

def arrayLoop : Nat → List (Json δ) → Nat → Except Failure (Json δ × Nat)
  | 0, _, _ => .error .outOfFuel
  | fuel + 1, list, i => do
    let (value, i) ← parseValue i
    let list := list ++ [value]
    let i := skipWhitespace s i
    check (i < s.length) .endInArray
    let c ← charAt s i
    if c = 0x2C then arrayLoop fuel list (i + 1)
    else if c = 0x5D then return (.array list, i + 1)
    else .error (.illegalState (.commaOrBracket i))

def parseArray (fuel : Nat) (i : Nat) : Except Failure (Json δ × Nat) := do
  let i ← expect s 0x5B i
  let i := skipWhitespace s i
  if s[i]? = some 0x5D then return (.array [], i + 1)
  else arrayLoop s parseValue fuel [] i

end Nested

def parseValue : Nat → Nat → Except Failure (Json δ × Nat)
  | 0, _ => .error .outOfFuel
  | fuel + 1, i => do
    let i := skipWhitespace s i
    check (i < s.length) .endOfText
    let c ← charAt s i
    if c = 0x7B then parseObject s (parseValue fuel) fuel i
    else if c = 0x5B then parseArray s (parseValue fuel) fuel i
    else if c = 0x22 then do
      let (value, i) ← parseString s i
      return (.string value, i)
    else if startsWith s (Utf16.ofString "true") i then return (.bool true, i + 4)
    else if startsWith s (Utf16.ofString "false") i then return (.bool false, i + 5)
    else if startsWith s (Utf16.ofString "null") i then return (.null, i + 4)
    else do
      let (x, i) ← parseNumber round s i
      return (.number x, i)

/-- What follows the value is skipped as far as it is white space, and nothing looks further. -/
def parse : Except Failure (Json δ) := do
  let i := skipWhitespace s 0
  let (value, i) ← parseValue round s (s.length + 1) i
  let _ := skipWhitespace s i
  return value

end Parser

end RealtimePlatform.Sdk.MinimalJson
