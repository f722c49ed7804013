import RealtimePlatform.Library.Utf16

/-!
# Decoding UTF-8 with replacement

Bytes that are no UTF-8 decode to U+FFFD, one for each maximal part of a sequence; a leading byte order
mark is dropped.
-/

namespace RealtimePlatform.Library.TextDecoder
open Utf16

def needed (lead : UInt8) : Nat :=
  if 0xC2 ≤ lead ∧ lead ≤ 0xDF then 1
  else if 0xE0 ≤ lead ∧ lead ≤ 0xEF then 2
  else if 0xF0 ≤ lead ∧ lead ≤ 0xF4 then 3
  else 0

def isSecond (lead byte : UInt8) : Bool :=
  let lower : UInt8 := if lead = 0xE0 then 0xA0 else if lead = 0xF0 then 0x90 else 0x80
  let upper : UInt8 := if lead = 0xED then 0x9F else if lead = 0xF4 then 0x8F else 0xBF
  lower ≤ byte && byte ≤ upper

def maximalSubpart (lead : UInt8) (rest : List UInt8) : Nat :=
  match rest.take (needed lead) with
  | [] => 1
  | second :: more =>
    if isSecond lead second then 2 + (more.takeWhile fun b => 0x80 ≤ b && b ≤ 0xBF).length else 1

theorem maximalSubpart_pos (lead : UInt8) (rest : List UInt8) : 0 < maximalSubpart lead rest := by
  unfold maximalSubpart
  split
  · exact Nat.one_pos
  · split <;> omega

def decodeUtf8 : List UInt8 → List Char
  | [] => []
  | lead :: rest =>
    match (lead :: rest).toByteArray.utf8DecodeChar? 0 with
    | some c => c :: decodeUtf8 ((lead :: rest).drop c.utf8Size)
    | none => replacement :: decodeUtf8 ((lead :: rest).drop (maximalSubpart lead rest))
termination_by bytes => bytes.length
decreasing_by
  · have size := c.utf8Size_pos
    simp only [List.length_drop, List.length_cons]
    omega
  · have size := maximalSubpart_pos lead rest
    simp only [List.length_drop, List.length_cons]
    omega

def dropMark (cs : List Char) : List Char := if cs.head? = some '\uFEFF' then cs.tail else cs

def decode (bytes : List UInt8) : Utf16 := (dropMark (decodeUtf8 bytes)).flatMap encodeChar

/-- Decoding that refuses what is no UTF-8, and drops nothing. -/
def decodeStrict (bytes : List UInt8) : Option String :=
  if valid : bytes.toByteArray.IsValidUTF8 then some (String.fromUTF8 _ valid) else none

theorem decodeStrict_utf8 (s : String) : decodeStrict (utf8 s) = some s := by
  have valid : (utf8 s).toByteArray.IsValidUTF8 := by
    rw [toByteArray_utf8]
    exact s.isValidUTF8
  rw [decodeStrict, dif_pos valid]
  exact congrArg some (String.toByteArray_inj.mp (toByteArray_utf8 s))

theorem decodeUtf8_encode_append (c : Char) (rest : List UInt8) :
    decodeUtf8 (String.utf8EncodeChar c ++ rest) = c :: decodeUtf8 rest := by
  have found : (String.utf8EncodeChar c ++ rest).toByteArray.utf8DecodeChar? 0 = some c := by
    rw [List.toByteArray_append]
    exact ByteArray.utf8DecodeChar?_utf8EncodeChar_append
  have left : (String.utf8EncodeChar c ++ rest).drop c.utf8Size = rest := by
    rw [← String.length_utf8EncodeChar, List.drop_left]
  cases shape : String.utf8EncodeChar c ++ rest with
  | nil =>
      have size := congrArg List.length shape
      rw [List.length_append, String.length_utf8EncodeChar, List.length_nil] at size
      have pos := c.utf8Size_pos
      omega
  | cons lead more =>
      rw [shape] at found left
      rw [decodeUtf8]
      simp only [found, left]

theorem decodeUtf8_encode (cs : List Char) : decodeUtf8 (cs.flatMap String.utf8EncodeChar) = cs := by
  induction cs with
  | nil => simp [decodeUtf8]
  | cons c cs ih => rw [List.flatMap_cons, decodeUtf8_encode_append, ih]

theorem decode_encode (cs : List Char) :
    decode (cs.flatMap String.utf8EncodeChar) = (dropMark cs).flatMap encodeChar := by
  rw [decode, decodeUtf8_encode]

theorem toNat_of_mem_encode {b : UInt8} (ascii : b.toNat < 0x80) {c : Char}
    (member : b ∈ String.utf8EncodeChar c) : c.toNat = b.toNat := by
  simp only [String.utf8EncodeChar] at member
  simp only [Char.toNat]
  split_ifs at member
  all_goals
    simp only [List.mem_cons, List.not_mem_nil, or_false, ← UInt8.toNat_inj,
      UInt8.toNat_ofNat'] at member
    omega

theorem eq_nul_of_zero_mem {c : Char} (zero : 0 ∈ String.utf8EncodeChar c) : c = '\x00' :=
  Char.toNat_inj.mp (toNat_of_mem_encode (by decide) zero)

theorem selfSynchronizing_utf8EncodeChar :
    SelfSynchronizing String.utf8EncodeChar fun b => isLead b = true where
  first c := by
    obtain ⟨x, more, encoded, leads, follow⟩ := utf8EncodeChar_lead c
    exact ⟨x, more, encoded, leads, fun y member => by simp [follow y member]⟩
  decodable c d v w same := by
    have scalar := congrArg decodeUtf8 same
    rw [decodeUtf8_encode_append, decodeUtf8_encode_append] at scalar
    exact (List.cons.inj scalar).1

theorem takeWhile_encode (cs : List Char) :
    (cs.flatMap String.utf8EncodeChar).takeWhile (· ≠ 0) =
      (cs.takeWhile (· ≠ '\x00')).flatMap String.utf8EncodeChar := by
  induction cs with
  | nil => rfl
  | cons c cs ih =>
      rw [List.flatMap_cons]
      by_cases nul : c = '\x00'
      · subst nul
        have single : String.utf8EncodeChar '\x00' = [0] := by decide
        simp [single]
      · have nonzero : ∀ b ∈ String.utf8EncodeChar c, (decide (b ≠ 0)) = true := by
          intro b member
          refine decide_eq_true ?_
          rintro rfl
          exact nul (eq_nul_of_zero_mem member)
        have kept : decide (c ≠ '\x00') = true := decide_eq_true nul
        rw [List.takeWhile_append_of_pos nonzero, ih, List.takeWhile_cons, if_pos kept, List.flatMap_cons]

end RealtimePlatform.Library.TextDecoder
