import Mathlib.Data.List.DropRight
import Mathlib.Data.List.Nodup

/-!
# Base64

Three bytes are written as four digits of six bits; one or two bytes left at the end take two or three digits,
whose unused bits are zero. The decoder is strict: it accepts what the encoder writes and nothing else.
-/

namespace RealtimePlatform.Library.Base64

structure Alphabet where
  chars : List Char
  sized : chars.length = 64
  nodup : chars.Nodup

namespace Alphabet

def digit (a : Alphabet) (n : Nat) : Char := a.chars.getD n 'A'

def value (a : Alphabet) (c : Char) : Option Nat := if c ∈ a.chars then some (a.chars.idxOf c) else none

theorem value_digit (a : Alphabet) {n : Nat} (small : n < 64) : a.value (a.digit n) = some n := by
  have inside : n < a.chars.length := a.sized.symm ▸ small
  have read : a.digit n = a.chars[n] := by simp [digit, inside]
  rw [value, read, if_pos (List.getElem_mem inside), List.Nodup.idxOf_getElem a.nodup]

theorem digit_of_value (a : Alphabet) {c : Char} {n : Nat} (read : a.value c = some n) :
    n < 64 ∧ a.digit n = c := by
  unfold value at read
  split at read
  · rename_i member
    obtain rfl := Option.some.inj read
    have inside := List.idxOf_lt_length_iff.mpr member
    refine ⟨a.sized ▸ inside, ?_⟩
    simp [digit, inside]
  · cases read

theorem digit_mem (a : Alphabet) {n : Nat} (small : n < 64) : a.digit n ∈ a.chars := by
  have inside : n < a.chars.length := a.sized.symm ▸ small
  simp [digit, inside]

end Alphabet

def encode (a : Alphabet) : List UInt8 → List Char
  | [] => []
  | [x] => [a.digit (x.toNat / 4), a.digit (x.toNat % 4 * 16)]
  | [x, y] => [a.digit (x.toNat / 4), a.digit (x.toNat % 4 * 16 + y.toNat / 16), a.digit (y.toNat % 16 * 4)]
  | x :: y :: z :: rest => a.digit (x.toNat / 4) :: a.digit (x.toNat % 4 * 16 + y.toNat / 16) ::
      a.digit (y.toNat % 16 * 4 + z.toNat / 64) :: a.digit (z.toNat % 64) :: encode a rest

/-- The bytes that four digits hold. -/
def first (p q : Nat) : UInt8 := UInt8.ofNat (p * 4 + q / 16)
def second (q r : Nat) : UInt8 := UInt8.ofNat (q % 16 * 16 + r / 4)
def third (r s : Nat) : UInt8 := UInt8.ofNat (r % 4 * 64 + s)

def decode (a : Alphabet) : List Char → Option (List UInt8)
  | [] => some []
  | [_] => none
  | [c, d] => do
    let p ← a.value c
    let q ← a.value d
    if q % 16 = 0 then some [first p q] else none
  | [c, d, e] => do
    let p ← a.value c
    let q ← a.value d
    let r ← a.value e
    if r % 4 = 0 then some [first p q, second q r] else none
  | c :: d :: e :: f :: rest => do
    let p ← a.value c
    let q ← a.value d
    let r ← a.value e
    let s ← a.value f
    let bytes ← decode a rest
    some (first p q :: second q r :: third r s :: bytes)

theorem toNat_first {p q : Nat} (low : p < 64) (low' : q < 64) : (first p q).toNat = p * 4 + q / 16 := by
  rw [first, UInt8.toNat_ofNat', Nat.mod_eq_of_lt (by omega)]

theorem toNat_second {q r : Nat} (low : r < 64) : (second q r).toNat = q % 16 * 16 + r / 4 := by
  rw [second, UInt8.toNat_ofNat', Nat.mod_eq_of_lt (by omega)]

theorem toNat_third {r s : Nat} (low : s < 64) : (third r s).toNat = r % 4 * 64 + s := by
  rw [third, UInt8.toNat_ofNat', Nat.mod_eq_of_lt (by omega)]

theorem first_eq (x : UInt8) {y : Nat} (low : y < 16) : first (x.toNat / 4) (x.toNat % 4 * 16 + y) = x := by
  have bound := x.toNat_lt
  apply UInt8.toNat_inj.mp
  rw [toNat_first (by omega) (by omega)]
  omega

theorem second_eq (y : UInt8) {x z : Nat} (low : z < 4) :
    second (x * 16 + y.toNat / 16) (y.toNat % 16 * 4 + z) = y := by
  have bound := y.toNat_lt
  apply UInt8.toNat_inj.mp
  rw [toNat_second (by omega)]
  omega

theorem third_eq (z : UInt8) {y : Nat} : third (y * 4 + z.toNat / 64) (z.toNat % 64) = z := by
  have bound := z.toNat_lt
  apply UInt8.toNat_inj.mp
  rw [toNat_third (by omega)]
  omega

section
variable {a : Alphabet}

theorem decode_encode (bytes : List UInt8) : decode a (encode a bytes) = some bytes := by
  induction bytes using encode.induct with
  | case1 => rfl
  | case2 x =>
      have bound := x.toNat_lt
      have whole : first (x.toNat / 4) (x.toNat % 4 * 16) = x := first_eq x (Nat.zero_lt_succ 15)
      simp [encode, decode, a.value_digit (show x.toNat / 4 < 64 by omega),
        a.value_digit (show x.toNat % 4 * 16 < 64 by omega), whole]
  | case3 x y =>
      have bound := x.toNat_lt
      have bound' := y.toNat_lt
      have whole : second (x.toNat % 4 * 16 + y.toNat / 16) (y.toNat % 16 * 4) = y := second_eq y (Nat.zero_lt_succ 3)
      simp [encode, decode, a.value_digit (show x.toNat / 4 < 64 by omega),
        a.value_digit (show x.toNat % 4 * 16 + y.toNat / 16 < 64 by omega),
        a.value_digit (show y.toNat % 16 * 4 < 64 by omega), first_eq x (show y.toNat / 16 < 16 by omega), whole]
  | case4 x y z rest ih =>
      have bound := x.toNat_lt
      have bound' := y.toNat_lt
      have bound'' := z.toNat_lt
      simp [encode, decode, a.value_digit (show x.toNat / 4 < 64 by omega),
        a.value_digit (show x.toNat % 4 * 16 + y.toNat / 16 < 64 by omega),
        a.value_digit (show y.toNat % 16 * 4 + z.toNat / 64 < 64 by omega),
        a.value_digit (show z.toNat % 64 < 64 by omega), first_eq x (show y.toNat / 16 < 16 by omega),
        second_eq y (show z.toNat / 64 < 4 by omega), third_eq z, ih]

theorem encode_of_decode {text : List Char} {bytes : List UInt8} (decoded : decode a text = some bytes) :
    encode a bytes = text := by
  induction text using decode.induct generalizing bytes with
  | case1 =>
      cases decoded
      rfl
  | case2 => cases decoded
  | case3 c d =>
      simp only [decode, Option.bind_eq_bind, Option.bind_eq_some_iff, Option.ite_none_right_eq_some] at decoded
      obtain ⟨p, read, q, read₁, unused, same⟩ := decoded
      obtain ⟨low, rfl⟩ := a.digit_of_value read
      obtain ⟨low₁, rfl⟩ := a.digit_of_value read₁
      cases same
      rw [encode, toNat_first low low₁, show (p * 4 + q / 16) / 4 = p by omega,
        show (p * 4 + q / 16) % 4 * 16 = q by omega]
  | case4 c d e =>
      simp only [decode, Option.bind_eq_bind, Option.bind_eq_some_iff, Option.ite_none_right_eq_some] at decoded
      obtain ⟨p, read, q, read₁, r, read₂, unused, same⟩ := decoded
      obtain ⟨low, rfl⟩ := a.digit_of_value read
      obtain ⟨low₁, rfl⟩ := a.digit_of_value read₁
      obtain ⟨low₂, rfl⟩ := a.digit_of_value read₂
      cases same
      rw [encode, toNat_first low low₁, toNat_second low₂, show (p * 4 + q / 16) / 4 = p by omega,
        show (p * 4 + q / 16) % 4 * 16 + (q % 16 * 16 + r / 4) / 16 = q by omega,
        show (q % 16 * 16 + r / 4) % 16 * 4 = r by omega]
  | case5 c d e f rest ih =>
      simp only [decode, Option.bind_eq_bind, Option.bind_eq_some_iff] at decoded
      obtain ⟨p, read, q, read₁, r, read₂, s, read₃, more, rest', same⟩ := decoded
      obtain ⟨low, rfl⟩ := a.digit_of_value read
      obtain ⟨low₁, rfl⟩ := a.digit_of_value read₁
      obtain ⟨low₂, rfl⟩ := a.digit_of_value read₂
      obtain ⟨low₃, rfl⟩ := a.digit_of_value read₃
      cases same
      rw [encode, toNat_first low low₁, toNat_second low₂, toNat_third low₃,
        show (p * 4 + q / 16) / 4 = p by omega,
        show (p * 4 + q / 16) % 4 * 16 + (q % 16 * 16 + r / 4) / 16 = q by omega,
        show (q % 16 * 16 + r / 4) % 16 * 4 + (r % 4 * 64 + s) / 64 = r by omega,
        show (r % 4 * 64 + s) % 64 = s by omega, ih rest']

theorem length_encode (bytes : List UInt8) : (encode a bytes).length = (4 * bytes.length + 2) / 3 := by
  induction bytes using encode.induct with
  | case1 => rfl
  | case2 x => simp [encode]
  | case3 x y => simp [encode]
  | case4 x y z rest ih =>
      simp only [encode, List.length_cons, ih]
      omega

theorem mem_of_mem_encode {bytes : List UInt8} {c : Char} (member : c ∈ encode a bytes) : c ∈ a.chars := by
  induction bytes using encode.induct with
  | case1 => cases member
  | case2 x =>
      have bound := x.toNat_lt
      simp only [encode, List.mem_cons, List.not_mem_nil, or_false] at member
      rcases member with rfl | rfl <;> exact a.digit_mem (by omega)
  | case3 x y =>
      have bound := x.toNat_lt
      have bound' := y.toNat_lt
      simp only [encode, List.mem_cons, List.not_mem_nil, or_false] at member
      rcases member with rfl | rfl | rfl <;> exact a.digit_mem (by omega)
  | case4 x y z rest ih =>
      have bound := x.toNat_lt
      have bound' := y.toNat_lt
      have bound'' := z.toNat_lt
      simp only [encode, List.mem_cons] at member
      rcases member with rfl | rfl | rfl | rfl | later
      · exact a.digit_mem (by omega)
      · exact a.digit_mem (by omega)
      · exact a.digit_mem (by omega)
      · exact a.digit_mem (by omega)
      · exact ih later

end

def urlSafe : Alphabet where
  chars := "ABCDEFGHIJKLMNOPQRSTUVWXYZabcdefghijklmnopqrstuvwxyz0123456789-_".toList
  sized := rfl
  nodup := List.Nodup.of_map Char.toNat (by decide)

def standard : Alphabet where
  chars := "ABCDEFGHIJKLMNOPQRSTUVWXYZabcdefghijklmnopqrstuvwxyz0123456789+/".toList
  sized := rfl
  nodup := List.Nodup.of_map Char.toNat (by decide)

def padding (n : Nat) : List Char := List.replicate ((3 - n % 3) % 3) '='

def btoa (bytes : List UInt8) : List Char := encode standard bytes ++ padding bytes.length

section
variable {a b : Alphabet}

theorem digit_map {rename : Char → Char} (renamed : b.chars = a.chars.map rename) (kept : rename 'A' = 'A')
    (n : Nat) : b.digit n = rename (a.digit n) := by
  rw [Alphabet.digit, Alphabet.digit, renamed, List.getD_eq_getElem?_getD, List.getD_eq_getElem?_getD,
    List.getElem?_map]
  cases a.chars[n]? with
  | none => exact kept.symm
  | some c => rfl

theorem encode_rename {rename : Char → Char} (renamed : ∀ n < 64, b.digit n = rename (a.digit n))
    (bytes : List UInt8) : encode b bytes = (encode a bytes).map rename := by
  induction bytes using encode.induct with
  | case1 => rfl
  | case2 x =>
      have bound := x.toNat_lt
      simp [encode, renamed (x.toNat / 4) (by omega), renamed (x.toNat % 4 * 16) (by omega)]
  | case3 x y =>
      have bound := x.toNat_lt
      have bound' := y.toNat_lt
      simp [encode, renamed (x.toNat / 4) (by omega), renamed (x.toNat % 4 * 16 + y.toNat / 16) (by omega),
        renamed (y.toNat % 16 * 4) (by omega)]
  | case4 x y z rest ih =>
      have bound := x.toNat_lt
      have bound' := y.toNat_lt
      have bound'' := z.toNat_lt
      simp [encode, renamed (x.toNat / 4) (by omega), renamed (x.toNat % 4 * 16 + y.toNat / 16) (by omega),
        renamed (y.toNat % 16 * 4 + z.toNat / 64) (by omega), renamed (z.toNat % 64) (by omega), ih]

theorem not_mem_encode {c : Char} (foreign : c ∉ a.chars) (bytes : List UInt8) : c ∉ encode a bytes :=
  fun member => foreign (mem_of_mem_encode member)

end

theorem rdropWhile_append_padding {digits : List Char} (clean : '=' ∉ digits) (n : Nat) :
    (digits ++ padding n).rdropWhile (· == '=') = digits := by
  unfold padding
  generalize (3 - n % 3) % 3 = k
  induction k with
  | zero =>
      rw [List.replicate_zero, List.append_nil, List.rdropWhile_eq_self_iff]
      intro nonempty same
      exact clean (beq_iff_eq.mp same ▸ List.getLast_mem nonempty)
  | succ k ih => rw [List.replicate_succ', ← List.append_assoc, List.rdropWhile_concat_pos _ _ _ (by simp), ih]

end RealtimePlatform.Library.Base64
