import RealtimePlatform.Library.Numeral
import Mathlib.Data.List.Infix

/-!
# The text exposition of metrics

A sample is a line with a name, labels in quotes and a value. A reader that cuts the text into lines finds
the label it looks for in the lines that carry it and in no others, and reads the value that was written.
-/

namespace RealtimePlatform.Library

def dropReturn (line : List Char) : List Char := if line.getLast? = some '\r' then line.dropLast else line

def cutLines (current : List Char) : List Char → List (List Char)
  | [] => if current = [] then [] else [current]
  | c :: rest => if c = '\n' then dropReturn current :: cutLines [] rest else cutLines (current ++ [c]) rest

def lines (text : List Char) : List (List Char) := cutLines [] text

theorem cutLines_append {line : List Char} (inside : '\n' ∉ line) (current rest : List Char) :
    cutLines current (line ++ '\n' :: rest) = dropReturn (current ++ line) :: cutLines [] rest := by
  induction line generalizing current with
  | nil => simp [cutLines]
  | cons c line ih =>
      rw [List.mem_cons, not_or] at inside
      rw [List.cons_append, cutLines, if_neg (Ne.symm inside.1), ih inside.2]
      simp

theorem lines_join {written : List (List Char)} (inside : ∀ line ∈ written, '\n' ∉ line)
    (plain : ∀ line ∈ written, line.getLast? ≠ some '\r') :
    lines (written.flatMap fun line => line ++ ['\n']) = written := by
  unfold lines
  induction written with
  | nil => rfl
  | cons line written ih =>
      rw [List.forall_mem_cons] at inside plain
      rw [List.flatMap_cons, List.append_assoc, List.singleton_append, cutLines_append inside.1, List.nil_append,
        ih inside.2 plain.2, dropReturn, if_neg plain.1]

section
variable {α : Type*} {mark : α} {k u p q rest : List α}

theorem split_unique {p p' s s' : List α} (first : mark ∉ p) (first' : mark ∉ p')
    (same : p ++ mark :: s = p' ++ mark :: s') : p = p' ∧ s = s' := by
  induction p generalizing p' with
  | nil =>
      cases p' with
      | nil => exact ⟨rfl, (List.cons.inj same).2⟩
      | cons y p' => exact absurd ((List.cons.inj same).1 ▸ List.mem_cons_self) first'
  | cons x p ih =>
      cases p' with
      | nil => exact absurd ((List.cons.inj same).1 ▸ List.mem_cons_self) first
      | cons y p' =>
          rw [List.mem_cons, not_or] at first first'
          obtain ⟨rfl, tails⟩ := List.cons.inj same
          obtain ⟨rfl, rest⟩ := ih first.2 first'.2 tails
          exact ⟨rfl, rest⟩

theorem marked_infix_iff (word : mark ∉ k) (word' : mark ∉ u) (text : mark ∉ p) (text' : mark ∉ q) :
    (k ++ mark :: (u ++ [mark])) <:+: (p ++ mark :: (q ++ mark :: rest)) ↔
      (k <:+ p ∧ u = q) ∨ (k ++ mark :: (u ++ [mark])) <:+: (q ++ mark :: rest) := by
  constructor
  · intro found
    obtain ⟨a, b, same⟩ := found
    have parts : (a ++ k) ++ mark :: (u ++ mark :: b) = p ++ mark :: (q ++ mark :: rest) := by
      rw [← same]
      simp
    by_cases early : mark ∈ a
    · rw [List.append_assoc, List.append_eq_append_iff] at parts
      rcases parts with ⟨c, rfl, _⟩ | ⟨c, rfl, later⟩
      · exact absurd (List.mem_append_left _ early) text
      · cases c with
        | nil =>
            rw [List.append_nil] at early
            exact absurd early text
        | cons x c =>
            have tail := (List.cons.inj later).2
            refine Or.inr ⟨c, b, ?_⟩
            rw [tail]
            simp
    · have ahead : mark ∉ a ++ k := by
        rw [List.mem_append, not_or]
        exact ⟨early, word⟩
      obtain ⟨rfl, rest⟩ := split_unique ahead text parts
      exact Or.inl ⟨List.suffix_append a k, (split_unique word' text' rest).1⟩
  · intro found
    rcases found with ⟨⟨a, rfl⟩, rfl⟩ | later
    · exact ⟨a, rest, by simp⟩
    · exact later.trans (List.IsSuffix.isInfix ⟨p ++ [mark], by simp⟩)

theorem not_marked_inside [DecidableEq α] (text : mark ∉ p) (text' : mark ∉ q) :
    ¬ (k ++ mark :: (u ++ [mark])) <:+: (p ++ mark :: q) := by
  intro found
  have most := found.sublist.count_le mark
  simp [List.count_eq_zero.mpr text, List.count_eq_zero.mpr text'] at most
  omega

end

def escape (c : Char) : List Char :=
  if c = '\\' then ['\\', '\\'] else if c = '"' then ['\\', '"'] else if c = '\n' then ['\\', 'n'] else [c]

def LabelSafe (text : List Char) : Prop := ∀ c ∈ text, c ≠ '\\' ∧ c ≠ '"' ∧ c ≠ '\n'

instance (text : List Char) : Decidable (LabelSafe text) :=
  decidable_of_iff (text.all fun c => c != '\\' && c != '"' && c != '\n') (by simp [LabelSafe, and_assoc])

theorem LabelSafe.escape_eq {text : List Char} (plain : LabelSafe text) : text.flatMap escape = text := by
  induction text with
  | nil => rfl
  | cons c text ih =>
      obtain ⟨⟨backslash, quote, feed⟩, rest⟩ := List.forall_mem_cons.mp plain
      rw [List.flatMap_cons, ih rest, escape, if_neg backslash, if_neg quote, if_neg feed]
      rfl

theorem LabelSafe.quote {text : List Char} (plain : LabelSafe text) : '"' ∉ text := fun member => (plain _ member).2.1 rfl

def labelText (label : String × List Char) : List Char :=
  label.1.toList ++ '=' :: '"' :: (label.2.flatMap escape ++ ['"'])

def sampleLine (name : String) (labels : List (String × List Char)) (value : List Char) : List Char :=
  name.toList ++ (if labels = [] then [] else '{' :: ([','].intercalate (labels.map labelText) ++ ['}'])) ++
    ' ' :: value

section
variable {name key key' : String} {v v' u value : List Char}

theorem sampleLine_single (name key : String) (v value : List Char) (plain : LabelSafe v) :
    sampleLine name [(key, v)] value =
      (name.toList ++ '{' :: key.toList ++ ['=']) ++ '"' :: (v ++ '"' :: ('}' :: ' ' :: value)) := by
  simp [sampleLine, labelText, List.intercalate, plain.escape_eq]

theorem sampleLine_pair (name key key' : String) (v v' value : List Char) (plain : LabelSafe v) (plain' : LabelSafe v') :
    sampleLine name [(key, v), (key', v')] value =
      (name.toList ++ '{' :: key.toList ++ ['=']) ++ '"' :: (v ++ '"' :: ((',' :: key'.toList ++ ['=']) ++
        '"' :: (v' ++ '"' :: ('}' :: ' ' :: value)))) := by
  simp [sampleLine, labelText, List.intercalate, plain.escape_eq, plain'.escape_eq]

theorem labelText_eq (plain : LabelSafe u) :
    labelText (key, u) = (key.toList ++ ['=']) ++ '"' :: (u ++ ['"']) := by
  simp [labelText, plain.escape_eq]

theorem quote_notMem_close (digits : '"' ∉ value) : '"' ∉ '}' :: ' ' :: value := by
  simpa using digits

theorem labelText_infix_single (names : LabelSafe name.toList) (keys : LabelSafe key.toList) (plain : LabelSafe u) (plain' : LabelSafe v)
    (digits : '"' ∉ value) : labelText (key, u) <:+: sampleLine name [(key, v)] value ↔ u = v := by
  have front : '"' ∉ name.toList ++ '{' :: key.toList ++ ['='] := by simp [names.quote, keys.quote]
  have word : '"' ∉ key.toList ++ ['='] := by simp [keys.quote]
  have ends : key.toList ++ ['='] <:+ name.toList ++ '{' :: key.toList ++ ['='] := ⟨name.toList ++ ['{'], by simp⟩
  rw [labelText_eq plain, sampleLine_single _ _ _ _ plain', marked_infix_iff word plain.quote front plain'.quote,
    or_iff_left (not_marked_inside plain'.quote (quote_notMem_close digits)), and_iff_right ends]

theorem labelText_infix_pair (names : LabelSafe name.toList) (keys : LabelSafe key.toList) (keys' : LabelSafe key'.toList)
    (plain : LabelSafe u) (plain' : LabelSafe v) (plain'' : LabelSafe v') (digits : '"' ∉ value)
    (apart : ¬ key'.toList ++ ['='] <:+ name.toList ++ '{' :: key.toList ++ ['='])
    (odd : u ≠ ',' :: key'.toList ++ ['=']) :
    labelText (key', u) <:+: sampleLine name [(key, v), (key', v')] value ↔ u = v' := by
  have front : '"' ∉ name.toList ++ '{' :: key.toList ++ ['='] := by simp [names.quote, keys.quote]
  have word : '"' ∉ key'.toList ++ ['='] := by simp [keys'.quote]
  have between : '"' ∉ ',' :: key'.toList ++ ['='] := by simp [keys'.quote]
  have ends : key'.toList ++ ['='] <:+ ',' :: key'.toList ++ ['='] := ⟨[','], rfl⟩
  rw [labelText_eq plain, sampleLine_pair _ _ _ _ _ _ plain' plain'',
    marked_infix_iff word plain.quote front plain'.quote, or_iff_right (fun h => apart h.1),
    marked_infix_iff word plain.quote plain'.quote between, or_iff_right (fun h => odd h.2),
    marked_infix_iff word plain.quote between plain''.quote,
    or_iff_left (not_marked_inside plain''.quote (quote_notMem_close digits)), and_iff_right ends]

end

def lastWord (line : List Char) : List Char := (line.reverse.takeWhile (· ≠ ' ')).reverse

theorem lastWord_append (front : List Char) {word : List Char} (single : ' ' ∉ word) :
    lastWord (front ++ ' ' :: word) = word := by
  have kept : ∀ c ∈ word.reverse, (decide (c ≠ ' ')) = true := by
    intro c member
    apply decide_eq_true
    rintro rfl
    exact single (List.mem_reverse.mp member)
  rw [lastWord, List.reverse_append, List.reverse_cons, List.append_assoc,
    List.takeWhile_append_of_pos kept]
  simp

/-- A number as `f64::from_str` reads it. -/
def parseF64 (text : List Char) : Option Double :=
  let negative := text.head? = some '-'
  let rest := if negative ∨ text.head? = some '+' then text.tail else text
  let lower := rest.map Char.toLower
  if lower = "inf".toList ∨ lower = "infinity".toList then some (.infinity negative)
  else if lower = "nan".toList then some .nan
  else (Numeral.strUnsignedDecimalLiteral rest).map fun value => .ofRat (if negative then -value else value)

/-- The cast `as u64`. -/
def Double.asU64 : Double → Nat
  | nan => 0
  | infinity negative => if negative then 0 else 2 ^ 64 - 1
  | finite value => min ⌊value⌋.toNat (2 ^ 64 - 1)

theorem toLower_of_isDigit {c : Char} (digit : c.isDigit = true) : c.toLower = c := by
  have range : 48 ≤ c.toNat ∧ c.toNat ≤ 57 := by
    simpa [Char.isDigit, UInt32.le_iff_toNat_le] using digit
  have small : ¬ (65 ≤ c.toNat ∧ c.toNat ≤ 90) := by omega
  have lower : ¬ (c.val ≥ 'A'.val ∧ c.val ≤ 'Z'.val) := by
    rw [ge_iff_le, UInt32.le_iff_toNat_le, UInt32.le_iff_toNat_le]
    exact small
  exact dif_neg lower

theorem parseF64_toDigits {n : Nat} (small : n < 2 ^ 53) : parseF64 (Nat.toDigits 10 n) = some (.finite n) := by
  have decimal : ∀ c ∈ Nat.toDigits 10 n, c.isDigit = true :=
    fun c member => Nat.isDigit_of_mem_toDigits (by decide) (by decide) member
  have unsigned : ∀ c : Char, c.isDigit = false → (Nat.toDigits 10 n).head? ≠ some c := by
    intro c other first
    rw [decimal c (List.mem_of_head? first)] at other
    cases other
  have lower : (Nat.toDigits 10 n).map Char.toLower = Nat.toDigits 10 n :=
    (List.map_congr_left fun c member => toLower_of_isDigit (decimal c member)).trans (List.map_id _)
  have unnamed : ∀ word : List Char, word.all Char.isDigit = false → Nat.toDigits 10 n ≠ word := by
    intro word letters same
    rw [← same, List.all_eq_true.mpr decimal] at letters
    cases letters
  have minus := unsigned '-' (by decide)
  have plus := unsigned '+' (by decide)
  have inf := unnamed ['i', 'n', 'f'] (by decide)
  have infinity := unnamed ['i', 'n', 'f', 'i', 'n', 'i', 't', 'y'] (by decide)
  have nan := unnamed ['n', 'a', 'n'] (by decide)
  simp [parseF64, minus, plus, lower, inf, infinity, nan, Numeral.strUnsignedDecimalLiteral_toDigits,
    Double.ofRat_natCast small]

theorem asU64_finite {n : Nat} (small : n < 2 ^ 64) : (Double.finite n).asU64 = n := by
  rw [Double.asU64, Int.floor_natCast, Int.toNat_natCast]
  omega

end RealtimePlatform.Library
