import Mathlib.Data.List.DropRight
import Mathlib.Data.Vector.Basic

/-!
# UTF-8 text in zero-padded fields

A field of fixed width holds the longest prefix of a text that ends at a character boundary and
fits, followed by NUL bytes. Reading it back decodes the whole field and trims trailing NULs.
-/

namespace RealtimePlatform.Library

def utf8 (s : String) : List UInt8 := s.toByteArray.data.toList

def trimEndNul (s : String) : String := String.ofList (s.toList.rdropWhile (· == '\x00'))

def isCharBoundary (s : String) (i : Nat) : Bool :=
  if i = 0 then true
  else match (utf8 s)[i]? with
    | none => i == (utf8 s).length
    | some b => b < 0x80 || 0xC0 ≤ b

def charBoundaryUpTo (s : String) : Nat → Nat
  | 0 => 0
  | i + 1 => if isCharBoundary s (i + 1) then i + 1 else charBoundaryUpTo s i

def writePadded (width : Nat) (s : String) : List UInt8 :=
  let bytes := utf8 s
  let take := if width < bytes.length then charBoundaryUpTo s width else bytes.length
  bytes.take take ++ List.replicate (width - take) 0

theorem charBoundaryUpTo_eq {s : String} {low i : Nat} (start : isCharBoundary s low = true)
    (within : ∀ j, low < j → j ≤ i → isCharBoundary s j = false) (le : low ≤ i) :
    charBoundaryUpTo s i = low := by
  induction i with
  | zero => exact (Nat.le_zero.mp le).symm
  | succ i ih =>
      unfold charBoundaryUpTo
      by_cases last : low = i + 1
      · rw [← last, if_pos start]
      · have below : low ≤ i := by omega
        rw [if_neg (by simp [within (i + 1) (by omega) (Nat.le_refl _)])]
        exact ih (fun j above small => within j above (by omega)) below

theorem charBoundaryUpTo_le (s : String) (i : Nat) : charBoundaryUpTo s i ≤ i := by
  induction i with
  | zero => exact Nat.le_refl 0
  | succ i ih =>
      unfold charBoundaryUpTo
      split
      · exact Nat.le_refl _
      · omega

@[simp] theorem length_writePadded (width : Nat) (s : String) :
    (writePadded width s).length = width := by
  have bound := charBoundaryUpTo_le s width
  unfold writePadded
  simp only [List.length_append, List.length_take, List.length_replicate]
  split <;> omega

theorem writePadded_of_le {width : Nat} {s : String} (fits : (utf8 s).length ≤ width) :
    writePadded width s = utf8 s ++ List.replicate (width - (utf8 s).length) 0 := by
  have short : ¬ width < (utf8 s).length := by omega
  simp only [writePadded, short, if_false, List.take_length]

theorem utf8_ofList (l : List Char) : utf8 (String.ofList l) = l.flatMap String.utf8EncodeChar := by
  simp [utf8, List.utf8Encode]

def isLead (b : UInt8) : Bool := b < 0x80 || 0xC0 ≤ b

theorem utf8EncodeChar_lead (c : Char) : ∃ x more, String.utf8EncodeChar c = x :: more ∧
    isLead x = true ∧ ∀ y ∈ more, isLead y = false := by
  have bound : c.val.toNat < 0x110000 := by
    rcases c.valid with low | ⟨_, high⟩
    · have short := low
      simp only [UInt32.toNat] at *
      omega
    · exact high
  simp only [String.utf8EncodeChar]
  split_ifs
  all_goals
    refine ⟨_, _, rfl, ?_, ?_⟩
    · simp only [isLead, Bool.or_eq_true, decide_eq_true_eq, UInt8.lt_iff_toNat_lt,
        UInt8.le_iff_toNat_le, UInt8.toNat_ofNat', UInt8.reduceToNat]
      omega
    · simp only [isLead, List.mem_cons, List.not_mem_nil, or_false, Bool.or_eq_false_iff,
        decide_eq_false_iff_not, UInt8.lt_iff_toNat_lt, UInt8.le_iff_toNat_le, UInt8.reduceToNat]
      rintro y member
      rcases member with rfl | rfl | rfl <;> simp only [UInt8.toNat_ofNat'] <;> omega

theorem utf8_injective : Function.Injective utf8 := by
  intro s t same
  have data : s.toByteArray.data = t.toByteArray.data := Array.toList_inj.mp same
  exact String.toByteArray_inj.mp (ByteArray.ext data)

theorem utf8_append (s t : String) : utf8 (s ++ t) = utf8 s ++ utf8 t := by
  simp [utf8]

theorem toByteArray_utf8 (s : String) : (utf8 s).toByteArray = s.toByteArray :=
  ByteArray.ext (by simp [utf8])

private theorem replicate_zero_eq_utf8 (n : Nat) :
    List.replicate n (0 : UInt8) = utf8 (String.ofList (List.replicate n '\x00')) := by
  have single : String.utf8EncodeChar '\x00' = [0] := by decide
  rw [utf8_ofList]
  induction n with
  | zero => rfl
  | succ n ih => simp only [List.replicate_succ, List.flatMap_cons, single, ← ih, List.singleton_append]

/-- The text of a field, less its trailing NULs; `none` when the field is not UTF-8. -/
def decodeText (bytes : List UInt8) : Option String :=
  if valid : bytes.toByteArray.IsValidUTF8 then some (trimEndNul (String.fromUTF8 _ valid)) else none

theorem decodeText_utf8 (s : String) : decodeText (utf8 s) = some (trimEndNul s) := by
  have valid : (utf8 s).toByteArray.IsValidUTF8 := by
    rw [toByteArray_utf8]
    exact s.isValidUTF8
  have decoded : String.fromUTF8 _ valid = s := String.toByteArray_inj.mp (toByteArray_utf8 s)
  rw [decodeText, dif_pos valid, decoded]

theorem trimEndNul_append_nul (s : String) (n : Nat) :
    trimEndNul (s ++ String.ofList (List.replicate n '\x00')) = trimEndNul s := by
  rw [trimEndNul, trimEndNul, String.toList_append, String.toList_ofList]
  congr 1
  induction n with
  | zero => simp
  | succ n ih =>
      rw [List.replicate_succ', ← List.append_assoc, List.rdropWhile_concat_pos _ _ _ (by rfl), ih]

theorem decodeText_padded (s : String) (n : Nat) :
    decodeText (utf8 s ++ List.replicate n 0) = some (trimEndNul s) := by
  rw [replicate_zero_eq_utf8, ← utf8_append, decodeText_utf8, trimEndNul_append_nul]

theorem decodeText_writePadded {width : Nat} {s : String} (fits : (utf8 s).length ≤ width) :
    decodeText (writePadded width s) = some (trimEndNul s) := by
  rw [writePadded_of_le fits, decodeText_padded]

theorem exists_padding (s : String) :
    ∃ n, s = trimEndNul s ++ String.ofList (List.replicate n '\x00') := by
  have nuls : ∀ c ∈ s.toList.rtakeWhile (· == '\x00'), c = '\x00' := by
    intro c member
    simpa using List.mem_rtakeWhile_imp member
  refine ⟨(s.toList.rtakeWhile (· == '\x00')).length, String.toList_inj.mp ?_⟩
  rw [String.toList_append, trimEndNul, String.toList_ofList, String.toList_ofList,
    ← List.eq_replicate_of_mem nuls, List.rdropWhile_append_rtakeWhile]

theorem padded_of_decodeText {bytes : List UInt8} {text : String}
    (decoded : decodeText bytes = some text) : ∃ n, bytes = utf8 text ++ List.replicate n 0 := by
  unfold decodeText at decoded
  split at decoded
  · rename_i valid
    have encoded : utf8 (String.fromUTF8 _ valid) = bytes := by
      simp [utf8, String.fromUTF8]
    obtain ⟨n, padded⟩ := exists_padding (String.fromUTF8 _ valid)
    refine ⟨n, ?_⟩
    rw [← encoded, ← Option.some.inj decoded, replicate_zero_eq_utf8, ← utf8_append, ← padded]
  · cases decoded

theorem writePadded_decodeText {bytes : List UInt8} {text : String}
    (decoded : decodeText bytes = some text) : writePadded bytes.length text = bytes := by
  obtain ⟨n, padded⟩ := padded_of_decodeText decoded
  have size : bytes.length = (utf8 text).length + n := by
    rw [padded, List.length_append, List.length_replicate]
  rw [writePadded_of_le (by omega), size, Nat.add_sub_cancel_left, padded]

theorem trimEndNul_eq_self_iff {s : String} :
    trimEndNul s = s ↔ ∀ nonempty : s.toList ≠ [], s.toList.getLast nonempty ≠ '\x00' := by
  have lists : trimEndNul s = s ↔ s.toList.rdropWhile (· == '\x00') = s.toList := by
    constructor
    · intro same
      simpa [trimEndNul] using congrArg String.toList same
    · intro same
      rw [trimEndNul, same, String.ofList_toList]
  rw [lists, List.rdropWhile_eq_self_iff]
  simp

end RealtimePlatform.Library
