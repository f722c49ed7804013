import RealtimePlatform.Library.Replacement
import RealtimePlatform.Library.Table

/-!
# Template variables in the portal

`fillTemplateVariables` of `BroadcastingPage.tsx`. Texts are JavaScript strings, and a value is looked up as
a property of an object, which has the properties of `Object.prototype` beside its own.
-/

namespace RealtimePlatform.Portal
open Library Utf16

/-- `\s`. -/
def isSpace (n : Nat) : Bool :=
  (0x9 ≤ n && n ≤ 0xD) || n == 0x20 || n == 0xA0 || n == 0x1680 || (0x2000 ≤ n && n ≤ 0x200A) ||
    n == 0x2028 || n == 0x2029 || n == 0x202F || n == 0x205F || n == 0x3000 || n == 0xFEFF

/-- `[a-zA-Z0-9_]`. -/
def isWord (n : Nat) : Bool :=
  (0x61 ≤ n && n ≤ 0x7A) || (0x41 ≤ n && n ≤ 0x5A) || (0x30 ≤ n && n ≤ 0x39) || n == 0x5F

theorem isWord_of_isSpace {n : Nat} (space : isSpace n = true) : isWord n = false := by
  simp only [isSpace, Bool.or_eq_true, Bool.and_eq_true, decide_eq_true_eq, beq_iff_eq] at space
  simp only [isWord, Bool.or_eq_false_iff, Bool.and_eq_false_iff, decide_eq_false_iff_not, beq_eq_false_iff_ne]
  omega

def templateVariablePattern : Braces UInt16 where
  opening := 0x7B
  closing := 0x7D
  isSpace u := isSpace u.toNat
  isWord u := isWord u.toNat
  distinct := by decide
  disjoint _ := isWord_of_isSpace
  openingPlain := by decide
  closingPlain := by decide

/-- The functions among the properties of `Object.prototype`, but for its constructor. -/
def prototypeFunctions : List String :=
  ["hasOwnProperty", "isPrototypeOf", "propertyIsEnumerable", "toLocaleString", "toString", "valueOf",
    "__defineGetter__", "__defineSetter__", "__lookupGetter__", "__lookupSetter__"]

def functionText (name : Utf16) : Utf16 :=
  ofString "function " ++ name ++ ofString "() \x7b [native code] \x7d"

/-- A property of `Object.prototype`, as text. -/
def inherited (name : Utf16) : Option Utf16 :=
  if name = ofString "constructor" then some (functionText (ofString "Object"))
  else if name = ofString "__proto__" then some (ofString "[object Object]")
  else if name ∈ prototypeFunctions.map ofString then some (functionText name)
  else none

/-- `values[name] ?? ''`. -/
def property (values : Table Utf16 Utf16) (name : Utf16) : Utf16 :=
  match AList.lookup name values with
  | some value => value
  | none => (inherited name).getD []

def fillTemplateVariables (body : Utf16) (values : Table Utf16 Utf16) : Utf16 :=
  templateVariablePattern.replaceAll (property values) body

def record (values : Table String String) : Table Utf16 Utf16 :=
  Table.relabel ofString ofString_injective ofString values

def scalarBraces : Braces Char where
  opening := '{'
  closing := '}'
  isSpace c := isSpace c.toNat
  isWord c := isWord c.toNat
  distinct := by decide
  disjoint _ := isWord_of_isSpace
  openingPlain := by decide
  closingPlain := by decide

theorem encodedBraces : EncodedBraces encodeChar scalarBraces templateVariablePattern where
  symbol c := by
    by_cases short : c.toNat < 0x10000
    · have value : (UInt16.ofNat c.toNat).toNat = c.toNat := by
        rw [UInt16.toNat_ofNat']
        omega
      have brace : ∀ (u : UInt16) (d : Char), u.toNat = d.toNat → (UInt16.ofNat c.toNat = u ↔ c = d) := by
        intro u d same
        rw [← UInt16.toNat_inj, value, same, Char.toNat_inj]
      refine ⟨_, [], encodeChar_short short, brace _ _ rfl, brace _ _ rfl, ?_, ?_, by simp, fun _ => rfl⟩
      · exact congrArg isSpace value
      · exact congrArg isWord value
    · obtain ⟨high, low, encoded, isHigh, isLow, _⟩ := encodeChar_long (by omega : 0x10000 ≤ c.toNat)
      simp only [Utf16.isHigh, Utf16.isLow, Bool.and_eq_true, decide_eq_true_eq] at isHigh isLow
      have far : ∀ n, 0xD800 ≤ n → n ≠ 0xFEFF → isSpace n = false ∧ isWord n = false := by
        intro n large plain
        simp only [isSpace, isWord, Bool.or_eq_false_iff, Bool.and_eq_false_iff, decide_eq_false_iff_not,
          beq_eq_false_iff_ne]
        omega
      have other : ∀ u : UInt16, 0xD800 ≤ u.toNat → u ≠ 0x7B ∧ u ≠ 0x7D := by
        intro u large
        constructor
        · rintro rfl
          revert large
          decide
        · rintro rfl
          revert large
          decide
      have notBrace : c ≠ '{' ∧ c ≠ '}' := by
        constructor
        · rintro rfl
          exact short (by decide)
        · rintro rfl
          exact short (by decide)
      have plain := far high.toNat isHigh.1 (by omega)
      have plain' := far c.toNat (by omega) (by omega)
      refine ⟨high, [low], encoded, ?_, ?_, plain.1.trans plain'.1.symm, plain.2.trans plain'.2.symm, ?_, ?_⟩
      · exact iff_of_false (other high isHigh.1).1 notBrace.1
      · exact iff_of_false (other high isHigh.1).2 notBrace.2
      · intro v member
        rw [List.mem_singleton.mp member]
        exact (other low (by omega)).1
      · rintro (opening | closing | space | word)
        · exact absurd opening notBrace.1
        · exact absurd closing notBrace.2
        · exact absurd (plain'.1.symm.trans space) (by decide)
        · exact absurd (plain'.2.symm.trans word) (by decide)

def propertyText (values : Table String String) (name : List Char) : List Char :=
  match AList.lookup (String.ofList name) values with
  | some value => value.toList
  | none => (toUsv ((inherited (name.flatMap encodeChar)).getD [])).toList

theorem functionText_ofString (name : String) :
    functionText (ofString name) = ofString ("function " ++ name ++ "() \x7b [native code] \x7d") := by
  simp [functionText, ofString, String.toList_append]

theorem inherited_eq_some {name text : Utf16} (found : inherited name = some text) :
    ∃ s : String, text = ofString s ∧ s ≠ "" := by
  have nonempty : ∀ s : String, "function " ++ s ++ "() \x7b [native code] \x7d" ≠ "" := by
    intro s same
    have first := congrArg (fun t : String => t.toList.head?) same
    simp at first
  unfold inherited at found
  split at found
  · rw [functionText_ofString, Option.some.injEq] at found
    exact ⟨_, found.symm, nonempty _⟩
  · split at found
    · rw [Option.some.injEq] at found
      exact ⟨_, found.symm, by decide⟩
    · split at found
      · rename_i member
        obtain ⟨own, _, rfl⟩ := List.mem_map.mp member
        rw [functionText_ofString, Option.some.injEq] at found
        exact ⟨_, found.symm, nonempty _⟩
      · cases found

theorem flatMap_encodeChar (name : List Char) : name.flatMap encodeChar = ofString (String.ofList name) := by
  rw [ofString, String.toList_ofList]

theorem property_record (values : Table String String) (name : List Char) :
    property (record values) (name.flatMap encodeChar) = (propertyText values name).flatMap encodeChar := by
  have read := Table.lookup_relabel ofString_injective ofString (String.ofList name) values
  rw [property, propertyText, flatMap_encodeChar, record, read]
  cases AList.lookup (String.ofList name) values with
  | some value => rfl
  | none =>
      cases found : inherited (ofString (String.ofList name)) with
      | none => rfl
      | some text =>
          obtain ⟨own, rfl, _⟩ := inherited_eq_some found
          simp only [Option.map_none, Option.getD_some, toUsv_ofString, flatMap_encodeChar, String.ofList_toList]

theorem fillTemplateVariables_record (body : String) (values : Table String String) :
    fillTemplateVariables (ofString body) (record values) =
      ofString (String.ofList (scalarBraces.replaceAll (propertyText values) body.toList)) := by
  rw [ofString, ofString, String.toList_ofList]
  exact encodedBraces.replaceAll_flatMap (fun name _ => property_record values name) body.toList

end RealtimePlatform.Portal
