import Mathlib.Data.Rat.Floor
import Mathlib.Data.Int.Log
import Mathlib.Data.List.TakeWhile

/-!
# Numbers read from text

The conversion of a string to a double by ECMAScript's `Number(text)`: white space is trimmed, an
empty text is 0, a literal denotes the double nearest to its value, and any other text is `NaN`.
-/

namespace RealtimePlatform.Library

/-- A double; both zeros are `finite 0`. -/
inductive Double where
  | nan
  | infinity (negative : Bool)
  | finite (value : ℚ)
  deriving DecidableEq

namespace Double

def roundHalfEven (q : ℚ) : ℤ :=
  let rest := q - ⌊q⌋
  if rest < 1 / 2 ∨ (rest = 1 / 2 ∧ ⌊q⌋ % 2 = 0) then ⌊q⌋ else ⌊q⌋ + 1

/-- The distance of two doubles at `q`. -/
def ulp (q : ℚ) : ℚ := 2 ^ (max (Int.log 2 |q|) (-1022) - 52)

def ofRat (q : ℚ) : Double :=
  let rounded := roundHalfEven (q / ulp q) * ulp q
  if |rounded| < 2 ^ 1024 then finite rounded else infinity (rounded < 0)

theorem roundHalfEven_intCast (n : ℤ) : roundHalfEven n = n := by
  simp [roundHalfEven]

theorem ofRat_natCast {n : Nat} (small : n < 2 ^ 53) : ofRat n = finite n := by
  have width : Nat.log 2 n ≤ 52 := Nat.lt_succ_iff.mp (Nat.log_lt_of_lt_pow' (by decide) small)
  have distance : ulp (n : ℚ) = (2 ^ (52 - Nat.log 2 n))⁻¹ := by
    have exponent : max (Nat.log 2 n : ℤ) (-1022) - 52 = -((52 - Nat.log 2 n : ℕ) : ℤ) := by omega
    rw [ulp, Nat.abs_cast, Int.log_natCast, exponent, zpow_neg, zpow_natCast]
  have scaled : (n : ℚ) / ulp n = ((n * 2 ^ (52 - Nat.log 2 n) : ℕ) : ℤ) := by
    rw [distance, div_inv_eq_mul]
    push_cast
    ring
  have rounded : roundHalfEven ((n : ℚ) / ulp n) * ulp n = n := by
    rw [scaled, roundHalfEven_intCast, ← scaled, div_mul_cancel₀]
    rw [distance]
    positivity
  have bound : |(n : ℚ)| < 2 ^ 1024 := by
    rw [Nat.abs_cast]
    calc (n : ℚ) < 2 ^ 53 := by exact_mod_cast small
      _ ≤ 2 ^ 1024 := by gcongr <;> norm_num
  rw [ofRat, rounded]
  exact if_pos bound

end Double

namespace Numeral

def isStrWhiteSpaceChar (c : Char) : Bool :=
  c ∈ ['\t', '\n', '\x0b', '\x0c', '\r', ' ', '\u00a0', '\u1680', '\u2028', '\u2029', '\u202f',
    '\u205f', '\u3000', '\ufeff'] || ('\u2000' ≤ c && c ≤ '\u200a')

def trim (text : List Char) : List Char :=
  ((text.dropWhile isStrWhiteSpaceChar).reverse.dropWhile isStrWhiteSpaceChar).reverse

def digitValue (c : Char) : Nat :=
  if c.isDigit then c.toNat - '0'.toNat
  else if 'a' ≤ c ∧ c ≤ 'z' then c.toNat - 'a'.toNat + 10
  else if 'A' ≤ c ∧ c ≤ 'Z' then c.toNat - 'A'.toNat + 10
  else 36

def digits (base : Nat) (text : List Char) : Option Nat :=
  if text ≠ [] ∧ text.all (digitValue · < base)
  then some (text.foldl (fun value c => value * base + digitValue c) 0)
  else none

def exponentPart (text : List Char) : Option ℤ :=
  match text with
  | [] => some 0
  | c :: rest =>
    if c = 'e' ∨ c = 'E' then
      match rest with
      | '+' :: rest => (digits 10 rest).map fun n => (n : ℤ)
      | '-' :: rest => (digits 10 rest).map fun n => -(n : ℤ)
      | rest => (digits 10 rest).map fun n => (n : ℤ)
    else none

def strUnsignedDecimalLiteral (text : List Char) : Option ℚ :=
  let whole := text.takeWhile Char.isDigit
  let rest := text.dropWhile Char.isDigit
  let fraction := if rest.head? = some '.' then rest.tail.takeWhile Char.isDigit else []
  let rest := if rest.head? = some '.' then rest.tail.dropWhile Char.isDigit else rest
  (digits 10 (whole ++ fraction)).bind fun value =>
    (exponentPart rest).map fun (exponent : ℤ) => (value : ℚ) * 10 ^ (exponent - fraction.length)

def strDecimalLiteral (text : List Char) : Double :=
  let negative := text.head? = some '-'
  let rest := if negative ∨ text.head? = some '+' then text.tail else text
  if rest = "Infinity".toList then .infinity negative
  else match strUnsignedDecimalLiteral rest with
    | none => .nan
    | some value => .ofRat (if negative then -value else value)

def radix : Char → Option Nat
  | 'b' => some 2
  | 'B' => some 2
  | 'o' => some 8
  | 'O' => some 8
  | 'x' => some 16
  | 'X' => some 16
  | _ => none

def stringToNumber (text : List Char) : Double :=
  match trim text with
  | [] => .finite 0
  | '0' :: c :: rest =>
    match radix c with
    | some base => ((digits base rest).map fun value => Double.ofRat value).getD .nan
    | none => strDecimalLiteral ('0' :: c :: rest)
  | literal => strDecimalLiteral literal

theorem digitValue_of_isDigit {c : Char} (digit : c.isDigit = true) : digitValue c = c.toNat - 48 ∧
    digitValue c < 10 := by
  have range : 48 ≤ c.toNat ∧ c.toNat ≤ 57 := by
    simpa [Char.isDigit, UInt32.le_iff_toNat_le] using digit
  have value : digitValue c = c.toNat - 48 := by simp [digitValue, digit]
  rw [value]
  omega

theorem digits_of_isDigit {text : List Char} (nonempty : text ≠ []) (decimal : ∀ c ∈ text, c.isDigit = true) :
    digits 10 text = some (Nat.ofDigitChars 10 text 0) := by
  have legal : text.all (digitValue · < 10) = true :=
    List.all_eq_true.mpr fun c member => decide_eq_true (digitValue_of_isDigit (decimal c member)).2
  have value : text.foldl (fun value c => value * 10 + digitValue c) 0 = Nat.ofDigitChars 10 text 0 := by
    unfold Nat.ofDigitChars
    apply List.foldl_ext
    intro value c member
    rw [(digitValue_of_isDigit (decimal c member)).1, Nat.mul_comm]
    rfl
  rw [digits, if_pos ⟨nonempty, legal⟩, value]

theorem digits_toDigits (n : Nat) : digits 10 (Nat.toDigits 10 n) = some n := by
  have decimal : ∀ c ∈ Nat.toDigits 10 n, c.isDigit = true :=
    fun c member => Nat.isDigit_of_mem_toDigits (by decide) (by decide) member
  rw [digits_of_isDigit Nat.toDigits_ne_nil decimal, Nat.ofDigitChars_ten_toDigits]

theorem not_isStrWhiteSpaceChar {c : Char} (digit : c.isDigit = true) :
    isStrWhiteSpaceChar c = false := by
  have range : 48 ≤ c.toNat ∧ c.toNat ≤ 57 := by
    simpa [Char.isDigit, UInt32.le_iff_toNat_le] using digit
  have listed : ∀ d : Char, (d.toNat < 48 ∨ 57 < d.toNat) → c ≠ d := by
    rintro d apart rfl
    omega
  have low : ¬ '\u2000' ≤ c := by
    rw [Char.le_def, UInt32.le_iff_toNat_le]
    have := range.2
    change ¬ 0x2000 ≤ c.toNat
    omega
  simp only [isStrWhiteSpaceChar, low, decide_false, Bool.false_and, Bool.or_false, decide_eq_false_iff_not,
    List.mem_cons, List.not_mem_nil, or_false, not_or]
  refine ⟨?_, ?_, ?_, ?_, ?_, ?_, ?_, ?_, ?_, ?_, ?_, ?_, ?_, ?_⟩ <;> exact listed _ (by decide)

theorem trim_of_digits {text : List Char} (decimal : ∀ c ∈ text, c.isDigit = true) : trim text = text := by
  have kept : ∀ l : List Char, (∀ c ∈ l, c.isDigit = true) → l.dropWhile isStrWhiteSpaceChar = l := by
    intro l all
    cases l with
    | nil => rfl
    | cons c rest => simp [not_isStrWhiteSpaceChar (all c List.mem_cons_self)]
  rw [trim, kept text decimal, kept text.reverse (by simpa using decimal), List.reverse_reverse]

theorem strUnsignedDecimalLiteral_toDigits (n : Nat) :
    strUnsignedDecimalLiteral (Nat.toDigits 10 n) = some (n : ℚ) := by
  have decimal : ∀ c ∈ Nat.toDigits 10 n, c.isDigit = true :=
    fun c member => Nat.isDigit_of_mem_toDigits (by decide) (by decide) member
  have whole := List.takeWhile_eq_self_iff.mpr decimal
  have rest := List.dropWhile_eq_nil_iff.mpr decimal
  simp [strUnsignedDecimalLiteral, whole, rest, digits_toDigits, exponentPart]

theorem stringToNumber_toDigits {n : Nat} (small : n < 2 ^ 53) :
    stringToNumber (Nat.toDigits 10 n) = .finite n := by
  have decimal : ∀ c ∈ Nat.toDigits 10 n, c.isDigit = true :=
    fun c member => Nat.isDigit_of_mem_toDigits (by decide) (by decide) member
  have literal : strDecimalLiteral (Nat.toDigits 10 n) = .finite n := by
    have unsigned : ∀ c : Char, c.isDigit = false → (Nat.toDigits 10 n).head? ≠ some c := by
      intro c other first
      rw [decimal c (List.mem_of_head? first)] at other
      cases other
    have named : Nat.toDigits 10 n ≠ "Infinity".toList := by
      intro same
      have first := decimal 'I' (same ▸ by decide)
      revert first
      decide
    simp only [strDecimalLiteral, unsigned '-' (by decide), unsigned '+' (by decide), decide_false,
      or_self, if_false, named, strUnsignedDecimalLiteral_toDigits,
      Double.ofRat_natCast small]
  unfold stringToNumber
  rw [trim_of_digits decimal]
  split
  · rename_i empty
    exact absurd empty Nat.toDigits_ne_nil
  · rename_i c rest shape
    have digit : c.isDigit = true := decimal c (shape ▸ by simp)
    have plain : radix c = none := by
      unfold radix
      split <;> first | rfl | (revert digit; decide)
    rw [plain]
    exact shape ▸ literal
  · exact literal

end Numeral
end RealtimePlatform.Library
