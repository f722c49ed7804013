import RealtimePlatform.Library.TextDecoder

/-!
# Cutting a text to a width

Three ways to keep the longest prefix of a text whose UTF-8 fits a width: writing whole scalar values
while they fit (`Utf16.fitting`), cutting the bytes and decoding what is complete, and stepping back from
the cut over continuation bytes.
-/

namespace RealtimePlatform.Library
open Utf16

def decodeIgnore : List UInt8 → List Char
  | [] => []
  | lead :: rest =>
    match (lead :: rest).toByteArray.utf8DecodeChar? 0 with
    | some c => c :: decodeIgnore ((lead :: rest).drop c.utf8Size)
    | none => decodeIgnore rest
termination_by bytes => bytes.length
decreasing_by
  · have size := c.utf8Size_pos
    simp only [List.length_drop, List.length_cons]
    omega
  · simp

def isContinuation (b : UInt8) : Bool := b &&& 0xC0 == 0x80

def stepBack (bytes : List UInt8) : Nat → Nat
  | 0 => 0
  | len + 1 => if isContinuation (bytes.getD (len + 1) 0) then stepBack bytes len else len + 1

theorem decodeIgnore_encode_append (c : Char) (rest : List UInt8) :
    decodeIgnore (String.utf8EncodeChar c ++ rest) = c :: decodeIgnore rest := by
  have found : (String.utf8EncodeChar c ++ rest).toByteArray.utf8DecodeChar? 0 = some c := by
    rw [List.toByteArray_append]
    exact ByteArray.utf8DecodeChar?_utf8EncodeChar_append
  have left : (String.utf8EncodeChar c ++ rest).drop c.utf8Size = rest := by
    rw [← String.length_utf8EncodeChar, List.drop_left]
  obtain ⟨x, more, encoded, -⟩ := utf8EncodeChar_lead c
  rw [encoded, List.cons_append] at found left
  rw [encoded, List.cons_append, decodeIgnore]
  simp only [found, left]

theorem encode_append_of_utf8DecodeChar? {bytes : List UInt8} {c : Char}
    (found : bytes.toByteArray.utf8DecodeChar? 0 = some c) :
    ∃ rest, bytes = String.utf8EncodeChar c ++ rest := by
  obtain ⟨rest, split⟩ := ByteArray.exists_of_utf8DecodeChar?_eq_some found
  refine ⟨rest.data.toList, ?_⟩
  have lists := congrArg (fun b : ByteArray => b.data.toList) split
  simpa using lists

theorem decodeIgnore_of_not_lead {bytes : List UInt8} (inner : ∀ b ∈ bytes, isLead b = false) :
    decodeIgnore bytes = [] := by
  induction bytes with
  | nil => simp [decodeIgnore]
  | cons lead rest ih =>
      have undecoded : (lead :: rest).toByteArray.utf8DecodeChar? 0 = none := by
        rw [Option.eq_none_iff_forall_ne_some]
        intro c found
        obtain ⟨after, split⟩ := encode_append_of_utf8DecodeChar? found
        obtain ⟨x, more, encoded, leads, -⟩ := utf8EncodeChar_lead c
        rw [encoded, List.cons_append, List.cons.injEq] at split
        have plain := inner lead List.mem_cons_self
        rw [split.1, leads] at plain
        cases plain
      rw [decodeIgnore]
      simp only [undecoded]
      exact ih fun b member => inner b (List.mem_cons_of_mem lead member)

theorem decodeIgnore_cut {c : Char} {bytes missing : List UInt8}
    (cut : String.utf8EncodeChar c = bytes ++ missing) (incomplete : missing ≠ []) :
    decodeIgnore bytes = [] := by
  obtain ⟨x, more, encoded, -, follow⟩ := utf8EncodeChar_lead c
  cases bytes with
  | nil => simp [decodeIgnore]
  | cons lead rest =>
      have undecoded : (lead :: rest).toByteArray.utf8DecodeChar? 0 = none := by
        rw [Option.eq_none_iff_forall_ne_some]
        intro d found
        obtain ⟨after, split⟩ := encode_append_of_utf8DecodeChar? found
        have same : c = d := by
          apply TextDecoder.selfSynchronizing_utf8EncodeChar.decodable c d [] (after ++ missing)
          rw [List.append_nil, cut, split, List.append_assoc]
        have sizes := congrArg List.length cut
        rw [split, same, List.length_append, List.length_append] at sizes
        have some : 0 < missing.length := List.length_pos_of_ne_nil incomplete
        omega
      have tail : more = rest ++ missing := by
        rw [encoded, List.cons_append, List.cons.injEq] at cut
        exact cut.2
      rw [decodeIgnore]
      simp only [undecoded]
      apply decodeIgnore_of_not_lead
      intro b member
      exact follow b (tail ▸ List.mem_append_left missing member)

theorem decodeIgnore_take (width : Nat) (cs : List Char) :
    decodeIgnore ((cs.flatMap String.utf8EncodeChar).take width) = fitting width cs := by
  induction cs generalizing width with
  | nil => simp [decodeIgnore, fitting]
  | cons c cs ih =>
      have size : (String.utf8EncodeChar c).length = c.utf8Size := String.length_utf8EncodeChar c
      rw [List.flatMap_cons, List.take_append, size, fitting]
      by_cases fits : c.utf8Size ≤ width
      · rw [if_pos fits, List.take_of_length_le (by omega), decodeIgnore_encode_append, ih]
      · have nothing : width - c.utf8Size = 0 := by omega
        have missing : (String.utf8EncodeChar c).drop width ≠ [] := by
          simp only [ne_eq, List.drop_eq_nil_iff, size]
          omega
        rw [if_neg fits, nothing, List.take_zero, List.append_nil]
        exact decodeIgnore_cut (List.take_append_drop width _).symm missing

theorem isContinuation_eq (b : UInt8) : isContinuation b = !isLead b := by
  have table : ∀ high low : Fin 16, isContinuation (UInt8.ofNat (16 * high + low)) =
      !isLead (UInt8.ofNat (16 * high + low)) := by decide
  have bound := b.toNat_lt
  have here := table ⟨b.toNat / 16, by omega⟩ ⟨b.toNat % 16, by omega⟩
  rwa [Nat.div_add_mod, UInt8.ofNat_toNat] at here

theorem stepBack_eq (s : String) {len : Nat} (within : len ≤ (utf8 s).length) :
    stepBack (utf8 s) len = charBoundaryUpTo s len := by
  induction len with
  | zero => rfl
  | succ len ih =>
      have boundary : isContinuation ((utf8 s).getD (len + 1) 0) = !isCharBoundary s (len + 1) := by
        rw [isContinuation_eq, isCharBoundary, if_neg (Nat.succ_ne_zero len), List.getD_eq_getElem?_getD]
        cases found : (utf8 s)[len + 1]? with
        | some b => rfl
        | none =>
            have last : (utf8 s).length ≤ len + 1 := List.getElem?_eq_none_iff.mp found
            have ends : len + 1 = (utf8 s).length := by omega
            simp [ends, isLead]
      rw [stepBack, charBoundaryUpTo, boundary, ih (by omega)]
      cases isCharBoundary s (len + 1) <;> rfl

theorem charBoundaryUpTo_length (s : String) :
    charBoundaryUpTo s (utf8 s).length = (utf8 s).length := by
  cases size : (utf8 s).length with
  | zero => rfl
  | succ len =>
      have boundary : isCharBoundary s (len + 1) = true := by
        simp [isCharBoundary, size]
      rw [charBoundaryUpTo, if_pos boundary]

theorem writePadded_eq_stepBack (width : Nat) (s : String) :
    let len := stepBack (utf8 s) (min (utf8 s).length width)
    writePadded width s = (utf8 s).take len ++ List.replicate (width - len) 0 := by
  intro len
  have stepped : len = charBoundaryUpTo s (min (utf8 s).length width) :=
    stepBack_eq s (Nat.min_le_left ..)
  rw [stepped]
  by_cases long : width < (utf8 s).length
  · rw [Nat.min_eq_right (Nat.le_of_lt long)]
    simp only [writePadded, if_pos long]
  · rw [Nat.min_eq_left (Nat.le_of_not_lt long), charBoundaryUpTo_length]
    simp only [writePadded, if_neg long]

end RealtimePlatform.Library
